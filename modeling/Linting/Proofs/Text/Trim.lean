import Mathlib.Data.List.DropRight
import Linting.Unicode.Blank

/-! White space around a text: what is left without it, and that none around it changes what is
left. -/

namespace Linting.Unicode
set_option autoImplicit false

variable {text front back : List Char}

theorem trim_eq_rdropWhile (text : List Char) : trim text =
    (text.dropWhile fun c => isBlank c.toNat).rdropWhile fun c => isBlank c.toNat := rfl

theorem trim_trim (text : List Char) : trim (trim text) = trim text := by
  let blank := fun c : Char => isBlank c.toNat
  have hrest := List.dropWhile_eq_self_iff.mp (List.dropWhile_idempotent blank (l := text))
  have hle : trim text <+: text.dropWhile blank := List.rdropWhile_prefix blank _
  -- what is left begins as it did before its end was cut
  have hfront : (trim text).dropWhile blank = trim text := by
    refine List.dropWhile_eq_self_iff.mpr fun hpos => ?_
    rw [hle.getElem hpos]
    exact hrest (hpos.trans_le hle.length_le)
  rw [trim_eq_rdropWhile, hfront]
  exact List.rdropWhile_idempotent ..

/-- Nothing is left of a text that is all white space. -/
theorem trim_eq_nil_iff : trim text = [] ↔ ∀ c ∈ text, isBlank c.toNat = true := by
  rw [trim_eq_rdropWhile, List.rdropWhile_eq_nil_iff, ← List.dropWhile_eq_nil_iff,
    List.dropWhile_idempotent, List.dropWhile_eq_nil_iff]

/-- White space in front of a text reaches up to the first character that is none. -/
theorem takeWhile_blank_append {body : List Char} (hfront : ∀ c ∈ front, isBlank c.toNat = true)
    (hne : body ≠ []) (hbody : ∀ c ∈ body, isBlank c.toNat = false) (rest : List Char) :
    ((front ++ (body ++ rest)).takeWhile fun c => isBlank c.toNat) = front := by
  obtain ⟨c, cs, rfl⟩ := List.exists_cons_of_ne_nil hne
  have hc : isBlank c.toNat = false := hbody c (List.mem_cons_self ..)
  rw [List.takeWhile_append_of_pos hfront, List.cons_append, List.takeWhile_cons, hc,
    if_neg Bool.false_ne_true, List.append_nil]

/-- A text is what is left of it without the white space around, between white space. -/
theorem exists_eq_append_trim (raw : List Char) :
    ∃ before after, raw = before ++ (trim raw ++ after) ∧
      (∀ c ∈ before, isBlank c.toNat = true) ∧ ∀ c ∈ after, isBlank c.toNat = true := by
  let blank := fun c : Char => isBlank c.toNat
  let rest := raw.dropWhile blank
  have hafter : rest = trim raw ++ (rest.reverse.takeWhile blank).reverse := by
    change rest = (rest.reverse.dropWhile blank).reverse ++ _
    rw [← List.reverse_append, List.takeWhile_append_dropWhile, List.reverse_reverse]
  have hblank : ∀ cs : List Char, ∀ c ∈ cs.takeWhile blank, isBlank c.toNat = true :=
    fun cs => List.all_eq_true.mp List.all_takeWhile
  refine ⟨raw.takeWhile blank, (rest.reverse.takeWhile blank).reverse, ?_, hblank raw, ?_⟩
  · rw [← hafter]
    exact List.takeWhile_append_dropWhile.symm
  · intro c hc
    exact hblank _ c (List.mem_reverse.mp hc)

theorem trim_append (hfront : ∀ c ∈ front, isBlank c.toNat = true)
    (hback : ∀ c ∈ back, isBlank c.toNat = true) : trim (front ++ (text ++ back)) = trim text := by
  rw [trim, List.dropWhile_append_of_pos hfront, List.dropWhile_append]
  split
  · next hnone =>
    -- then there is nothing but white space
    have hnil : text.dropWhile (fun c => isBlank c.toNat) = [] := List.isEmpty_iff.mp hnone
    rw [trim, hnil, List.dropWhile_eq_nil_iff.mpr hback]
  · rw [List.reverse_append,
      List.dropWhile_append_of_pos fun c hc => hback c (List.mem_reverse.mp hc), trim]

theorem trim_eq_self (h : ∀ c ∈ text, isBlank c.toNat = false) : trim text = text := by
  have hfront : (text.dropWhile fun c => isBlank c.toNat) = text :=
    List.dropWhile_eq_self_iff.mpr fun hpos => by simp [h _ (List.getElem_mem hpos)]
  rw [trim_eq_rdropWhile, hfront]
  exact List.rdropWhile_eq_self_iff.mpr fun hne => by simp [h _ (List.getLast_mem hne)]

/-- What has no part in where white space is may be done before it is cut off or after. -/
theorem trim_map {f : Char → Char} (hf : ∀ c, isBlank (f c).toNat = isBlank c.toNat)
    (text : List Char) : trim (text.map f) = (trim text).map f := by
  have hblank : (fun c => isBlank c.toNat) ∘ f = fun c => isBlank c.toNat := funext hf
  rw [trim, trim]
  simp only [List.dropWhile_map, ← List.map_reverse, hblank]

end Linting.Unicode
