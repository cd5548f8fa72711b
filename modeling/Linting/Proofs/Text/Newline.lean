import Mathlib.Algebra.Group.Nat.Defs
import Linting.Text.Newline
import Linting.Text.Utf8

/-! Line ends in texts and in their bytes. Bytes below 128 are characters of their own wherever they
stand, in broken texts too, so the line ends of a text may as well be unified in its bytes. -/

namespace Linting.Text
set_option autoImplicit false

/-! ## Where characters are cut -/

/-- Bytes that begin with no part of a longer character. -/
def StartsLow (bytes : List Nat) : Prop := ∀ b ∈ bytes.head?, b < 0x80

theorem lead?_low {b : Nat} {l : Lead} (h : lead? b = some l) : 0x80 ≤ l.low := by
  unfold lead? at h
  repeat' split at h
  all_goals cases h
  all_goals
    dsimp only
    omega

theorem continued_append (count value : Nat) (front : List Nat) {rest : List Nat}
    (h : StartsLow rest) : continued count value (front ++ rest) = continued count value front := by
  induction count generalizing value front with
  | zero => rfl
  | succ count ih =>
    cases front with
    | nil =>
      cases rest with
      | nil => rfl
      | cons b rest =>
        have hb : isContinuation b = false := by
          have hlow : b < 0x80 := h b rfl
          rw [isContinuation, Bool.and_eq_false_iff, decide_eq_false_iff_not]
          exact .inl (by omega)
        rw [List.nil_append, continued, continued, hb]
        rfl
    | cons b front =>
      rw [List.cons_append, continued, continued, ih]

theorem continued_count_le (count value : Nat) (bytes : List Nat) :
    (continued count value bytes).2.1 ≤ bytes.length := by
  induction count generalizing value bytes with
  | zero => exact Nat.zero_le _
  | succ count ih =>
    cases bytes with
    | nil => exact Nat.le_refl _
    | cons b bytes =>
      rw [continued]
      split
      · exact Nat.succ_le_succ (ih _ bytes)
      · exact Nat.zero_le _

/-- A byte below 128 ends what comes before it: it takes no part in the character there. -/
theorem firstCharacter_append (b : Nat) (front : List Nat) {rest : List Nat}
    (h : StartsLow rest) : firstCharacter b (front ++ rest) = firstCharacter b front := by
  unfold firstCharacter
  split
  · rfl
  · cases hlead : lead? b with
    | none => rfl
    | some l =>
      cases front with
      | nil =>
        cases rest with
        | nil => rfl
        | cons second rest =>
          have hlow := lead?_low hlead
          have hsecond : second < 0x80 := h second rfl
          have hnot : ¬ (l.low ≤ second ∧ second ≤ l.high) := by omega
          simp only [List.nil_append, if_neg hnot]
      | cons second front =>
        simp only [List.cons_append, continued_append _ _ front h]

theorem firstCharacter_size_le (b : Nat) (rest : List Nat) :
    (firstCharacter b rest).2 - 1 ≤ rest.length := by
  unfold firstCharacter
  split
  · exact Nat.zero_le _
  · split
    · exact Nat.zero_le _
    · exact Nat.zero_le _
    · split
      · exact Nat.succ_le_succ (continued_count_le _ _ _)
      · exact Nat.zero_le _

/-- A text may be cut in front of each byte below 128. -/
theorem characters_append (front : List Nat) {rest : List Nat} (h : StartsLow rest) :
    characters (front ++ rest) = characters front ++ characters rest := by
  induction front using characters.induct with
  | case1 => rw [characters, List.nil_append, List.nil_append]
  | case2 b front c size hfirst ih =>
    have hsize := firstCharacter_size_le b front
    rw [hfirst] at hsize
    rw [List.cons_append, characters, characters, firstCharacter_append b front h, hfirst]
    dsimp only
    rw [List.drop_append_of_le_length hsize, ih, List.cons_append]

theorem characters_low {b : Nat} (h : b < 0x80) (rest : List Nat) :
    characters (b :: rest) = some (Char.ofNat b) :: characters rest := by
  have hfirst : firstCharacter b rest = (some (Char.ofNat b), 1) := if_pos h
  rw [characters, hfirst]
  rfl

/-! ## Characters of one byte -/

theorem le_continued {count value : Nat} {bytes : List Nat}
    (h : (continued count value bytes).2.2 = true) :
    value * 64 ^ count ≤ (continued count value bytes).1 := by
  induction count generalizing value bytes with
  | zero => exact Nat.le_of_eq (Nat.mul_one value)
  | succ count ih =>
    cases bytes with
    | nil => cases h
    | cons b bytes =>
      rw [continued] at h ⊢
      split at h
      · next hb =>
        rw [if_pos hb]
        calc value * 64 ^ (count + 1) = 64 * value * 64 ^ count := by
              rw [Nat.pow_succ, Nat.mul_comm 64 value, Nat.mul_assoc, Nat.mul_comm 64]
          _ ≤ (64 * value + (b - 0x80)) * 64 ^ count :=
              Nat.mul_le_mul_right _ (Nat.le_add_right ..)
          _ ≤ _ := ih h
      · cases h

/-- What the first two bytes of a character give is enough for a code point beyond 127. -/
theorem le_of_lead? {b second : Nat} {l : Lead} (h : lead? b = some l) (hlow : l.low ≤ second) :
    0x80 ≤ (64 * l.bits + (second - 0x80)) * 64 ^ (l.more - 1) := by
  unfold lead? at h
  repeat' split at h
  all_goals cases h
  all_goals
    dsimp only at hlow ⊢
    omega

/-- A character from 1 to 127 that stands first is its own byte. -/
theorem eq_of_firstCharacter {b : Nat} {rest : List Nat} {c : Char} (hpos : 0 < c.toNat)
    (hlow : c.toNat < 0x80) (h : (firstCharacter b rest).1 = some c) : b = c.toNat := by
  -- a number that is no code point gives the character 0
  have hofNat {v : Nat} (hv : Char.ofNat v = c) : c.toNat = v := by
    obtain rfl := hv
    by_cases hvalid : v.isValidChar
    · rw [Char.ofNat, dif_pos hvalid]
      rfl
    · rw [Char.ofNat, dif_neg hvalid] at hpos
      exact absurd hpos (Nat.lt_irrefl 0)
  unfold firstCharacter at h
  split at h
  · next hb =>
    exact (hofNat (Option.some.inj h)).symm
  · split at h
    · cases h
    · cases h
    · next l second others hlead =>
      split at h
      · next hsecond =>
        dsimp only at h
        split at h
        · next hwhole =>
          have hle := Nat.le_trans (le_of_lead? hlead hsecond.1) (le_continued hwhole)
          have hc := hofNat (Option.some.inj h)
          omega
        · cases h
      · cases h

theorem mem_of_mem_characters {bytes : List Nat} {c : Char} (hpos : 0 < c.toNat)
    (hlow : c.toNat < 0x80) (h : some c ∈ characters bytes) : c.toNat ∈ bytes := by
  induction bytes using characters.induct with
  | case1 =>
    rw [characters] at h
    cases h
  | case2 b rest first size hfirst ih =>
    rw [characters, hfirst] at h
    rcases List.mem_cons.mp h with hhead | htail
    · have hc : (firstCharacter b rest).1 = some c := by rw [hfirst, ← hhead]
      exact eq_of_firstCharacter hpos hlow hc ▸ List.mem_cons_self ..
    · exact List.mem_cons_of_mem _ (List.mem_of_mem_drop (ih htail))

/-! ## Decoded texts -/

section Decoded

variable {bytes front rest : List UInt8} {c : Char}

theorem toList_decodeLoosely (bytes : List UInt8) : (decodeLoosely bytes).toList =
    (characters (bytes.map UInt8.toNat)).map (·.getD replacement) := String.toList_ofList

theorem decodeLoosely_append (h : ∀ b ∈ rest.head?, b.toNat < 0x80) :
    (decodeLoosely (front ++ rest)).toList =
      (decodeLoosely front).toList ++ (decodeLoosely rest).toList := by
  have hlow : StartsLow (rest.map UInt8.toNat) := by
    intro b hb
    rw [List.head?_map, Option.mem_def, Option.map_eq_some_iff] at hb
    obtain ⟨b', hb', rfl⟩ := hb
    exact h b' hb'
  simp only [toList_decodeLoosely, List.map_append, characters_append _ hlow]

theorem decodeLoosely_low {b : UInt8} (h : b.toNat < 0x80) (rest : List UInt8) :
    (decodeLoosely (b :: rest)).toList =
      Char.ofNat b.toNat :: (decodeLoosely rest).toList := by
  simp only [toList_decodeLoosely, List.map_cons, characters_low h]
  rfl

theorem eq_some_of_getD {o : Option Char} (hlow : c.toNat < 0x80)
    (h : o.getD replacement = c) : o = some c := by
  cases o with
  | none =>
    obtain rfl := h
    exact absurd hlow (by decide)
  | some d => exact congrArg some h

/-- A character from 1 to 127 in a decoded text comes from its own byte. -/
theorem mem_of_mem_decodeLoosely (hpos : 0 < c.toNat) (hlow : c.toNat < 0x80)
    (h : c ∈ (decodeLoosely bytes).toList) : ∃ b ∈ bytes, b.toNat = c.toNat := by
  rw [toList_decodeLoosely, List.mem_map] at h
  obtain ⟨o, ho, hc⟩ := h
  obtain rfl := eq_some_of_getD hlow hc
  exact List.mem_map.mp (mem_of_mem_characters hpos hlow ho)

theorem head?_of_head?_decodeLoosely (hpos : 0 < c.toNat) (hlow : c.toNat < 0x80)
    (h : (decodeLoosely bytes).toList.head? = some c) : ∃ b ∈ bytes.head?, b.toNat = c.toNat := by
  rw [toList_decodeLoosely] at h
  cases bytes with
  | nil =>
    rw [List.map_nil, characters] at h
    cases h
  | cons b bytes =>
    rw [List.map_cons, characters] at h
    have hc := eq_some_of_getD hlow (Option.some.inj h)
    exact ⟨b, rfl, eq_of_firstCharacter hpos hlow hc⟩

end Decoded

/-! ## Unifying line ends -/

/-- A sequence with every return, and the feed after it if there is one, replaced by a feed. -/
def unifyEnds {α : Type} [DecidableEq α] (ret feed : α) : List α → List α
  | [] => []
  | [c] => [if c = ret then feed else c]
  | c :: d :: rest =>
    if c = ret then feed :: (if d = feed then unifyEnds ret feed rest else
      unifyEnds ret feed (d :: rest))
    else c :: unifyEnds ret feed (d :: rest)

section UnifyEnds

variable {α : Type} [DecidableEq α] {ret feed : α}

theorem unifyEnds_pair (rest : List α) :
    unifyEnds ret feed (ret :: feed :: rest) = feed :: unifyEnds ret feed rest := by
  rw [unifyEnds, if_pos rfl, if_pos rfl]

theorem unifyEnds_return {rest : List α} (h : rest.head? ≠ some feed) :
    unifyEnds ret feed (ret :: rest) = feed :: unifyEnds ret feed rest := by
  cases rest with
  | nil => rw [unifyEnds, unifyEnds, if_pos rfl]
  | cons d rest =>
    have hd : d ≠ feed := fun hd => h (congrArg some hd)
    rw [unifyEnds, if_pos rfl, if_neg hd]

theorem unifyEnds_other {c : α} (h : c ≠ ret) (rest : List α) :
    unifyEnds ret feed (c :: rest) = c :: unifyEnds ret feed rest := by
  cases rest with
  | nil => rw [unifyEnds, unifyEnds, if_neg h]
  | cons d rest => rw [unifyEnds, if_neg h]

theorem head?_unifyEnds_return (rest : List α) :
    (unifyEnds ret feed (ret :: rest)).head? = some feed := by
  cases rest with
  | nil => rw [unifyEnds, if_pos rfl, List.head?_cons]
  | cons d rest => rw [unifyEnds, if_pos rfl, List.head?_cons]

/-- After a return comes a feed or something else. -/
theorem unifyEnds_return_cases (rest : List α) :
    (∃ rest', rest = feed :: rest' ∧
      unifyEnds ret feed (ret :: rest) = feed :: unifyEnds ret feed rest') ∨
    (rest.head? ≠ some feed ∧
      unifyEnds ret feed (ret :: rest) = feed :: unifyEnds ret feed rest) := by
  by_cases h : rest.head? = some feed
  · obtain ⟨rest', rfl⟩ := List.head?_eq_some_iff.mp h
    exact .inl ⟨rest', rfl, unifyEnds_pair rest'⟩
  · exact .inr ⟨h, unifyEnds_return h⟩

theorem unifyEnds_append {front : List α} (h : ret ∉ front) (rest : List α) :
    unifyEnds ret feed (front ++ rest) = front ++ unifyEnds ret feed rest := by
  induction front with
  | nil => rfl
  | cons c front ih =>
    rw [List.mem_cons, not_or] at h
    rw [List.cons_append, unifyEnds_other (Ne.symm h.1), ih h.2, List.cons_append]

theorem unifyEnds_of_not_mem {xs : List α} (h : ret ∉ xs) : unifyEnds ret feed xs = xs := by
  have hunify : unifyEnds ret feed (xs ++ []) = xs ++ unifyEnds ret feed [] :=
    unifyEnds_append h []
  rwa [List.append_nil, unifyEnds, List.append_nil] at hunify

theorem not_mem_unifyEnds (hne : ret ≠ feed) (xs : List α) : ret ∉ unifyEnds ret feed xs := by
  induction xs using unifyEnds.induct ret with
  | case1 => exact List.not_mem_nil
  | case2 c =>
    rw [unifyEnds, List.mem_singleton]
    split
    · exact hne
    · next hc => exact Ne.symm hc
  | case3 d rest ih ih' =>
    rw [unifyEnds, if_pos rfl, List.mem_cons, not_or]
    refine ⟨hne, ?_⟩
    split
    · exact ih
    · exact ih'
  | case4 c d rest hc ih =>
    rw [unifyEnds, if_neg hc, List.mem_cons, not_or]
    exact ⟨Ne.symm hc, ih⟩

end UnifyEnds

theorem unifyNewlines_eq (text : List Char) : unifyNewlines text = unifyEnds '\r' '\n' text := by
  induction text using unifyNewlines.induct with
  | case1 rest ih => rw [unifyNewlines, unifyEnds_pair, ih]
  | case2 rest hnot ih =>
    have hhead : rest.head? ≠ some '\n' := by
      intro h
      obtain ⟨rest', rfl⟩ := List.head?_eq_some_iff.mp h
      exact hnot rest' rfl
    rw [unifyNewlines, unifyEnds_return hhead, ih]
    exact hnot
  | case3 c rest hpair hreturn ih =>
    rw [unifyNewlines, unifyEnds_other hreturn, ih]
    · exact hpair
    · exact hreturn
  | case4 => rfl

theorem unifyNewlines_eq_self_iff {text : List Char} : unifyNewlines text = text ↔ '\r' ∉ text := by
  rw [unifyNewlines_eq]
  constructor
  · intro h hmem
    rw [← h] at hmem
    exact not_mem_unifyEnds (by decide) text hmem
  · exact unifyEnds_of_not_mem

/-! ## Unifying before and after decoding -/

theorem head?_return_low (rest : List UInt8) :
    ∀ b ∈ (0x0D :: rest).head?, b.toNat < 0x80 := by
  intro b hb
  obtain rfl := Option.some.inj hb
  decide

theorem return_mem_decodeLoosely_iff {bytes : List UInt8} :
    '\r' ∈ (decodeLoosely bytes).toList ↔ 0x0D ∈ bytes := by
  constructor
  · intro h
    obtain ⟨b, hb, hreturn⟩ := mem_of_mem_decodeLoosely (by decide) (by decide) h
    obtain rfl : b = 0x0D := UInt8.toNat_inj.mp hreturn
    exact hb
  · intro h
    obtain ⟨front, rest, rfl⟩ := List.append_of_mem h
    rw [decodeLoosely_append (head?_return_low rest), decodeLoosely_low (by decide)]
    exact List.mem_append_right _ (List.mem_cons_self ..)

/-- The line ends of a decoded text may be unified in its bytes. -/
theorem decodeLoosely_unifyEnds (bytes : List UInt8) :
    (decodeLoosely (unifyEnds 0x0D 0x0A bytes)).toList =
      unifyNewlines (decodeLoosely bytes).toList := by
  rw [unifyNewlines_eq]
  induction hlength : bytes.length using Nat.strongRecOn generalizing bytes with
  | ind length ih =>
    by_cases hmem : 0x0D ∈ bytes
    · -- cut in front of the first return, and unify from there
      obtain ⟨front, rest, rfl, hfront⟩ := List.eq_append_cons_of_mem hmem
      rw [List.length_append, List.length_cons] at hlength
      have hunified : (decodeLoosely (unifyEnds 0x0D 0x0A (0x0D :: rest))).toList =
          unifyEnds '\r' '\n' ('\r' :: (decodeLoosely rest).toList) := by
        rcases @unifyEnds_return_cases UInt8 _ 0x0D 0x0A rest with
          ⟨rest', rfl, hpair⟩ | ⟨hhead, hreturn⟩
        · rw [List.length_cons] at hlength
          rw [hpair, decodeLoosely_low (by decide), decodeLoosely_low (by decide),
            ih _ (by omega) rest' rfl]
          exact (unifyEnds_pair _).symm
        · rw [hreturn, decodeLoosely_low (by decide), ih _ (by omega) rest rfl, unifyEnds_return]
          · rfl
          · intro hfeed
            obtain ⟨b, hb, hfeed⟩ := head?_of_head?_decodeLoosely (by decide) (by decide) hfeed
            obtain rfl : b = 0x0A := UInt8.toNat_inj.mp hfeed
            exact hhead hb
      have hlow : ∀ b ∈ (unifyEnds 0x0D 0x0A (0x0D :: rest)).head?, b.toNat < 0x80 := by
        intro b hb
        rw [head?_unifyEnds_return] at hb
        obtain rfl := Option.some.inj hb
        decide
      rw [unifyEnds_append hfront, decodeLoosely_append hlow, hunified,
        decodeLoosely_append (head?_return_low rest), decodeLoosely_low (by decide)]
      exact (unifyEnds_append (mt return_mem_decodeLoosely_iff.mp hfront) _).symm
    · rw [unifyEnds_of_not_mem hmem,
        unifyEnds_of_not_mem (mt return_mem_decodeLoosely_iff.mp hmem)]

end Linting.Text
