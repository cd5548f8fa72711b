import Linting.Json
import Linting.Proofs.Json.Grammar
import Mathlib.Algebra.Group.Nat.Defs
import Mathlib.Data.List.Basic

/-! Trees as they are written: texts of JSON in ASCII, which read back as what was written. -/

namespace Linting.Json
set_option autoImplicit false

/-! ## Trees -/

/-- What holds of every tree: it passes from the trees inside one to the whole. -/
@[elab_as_elim]
theorem induct {motive : Json → Prop} (null : motive null) (int : ∀ n, motive (int n))
    (text : ∀ s, motive (text s)) (list : ∀ items, (∀ j ∈ items, motive j) → motive (list items))
    (record : ∀ fields, (∀ f ∈ fields, motive f.2) → motive (record fields)) : ∀ j, motive j
  | .null => null
  | .int n => int n
  | .text s => text s
  | .list items => list items fun j _ => induct null int text list record j
  | .record fields => record fields fun f _ => induct null int text list record f.2
termination_by j => sizeOf j
decreasing_by
  · have hlt := List.sizeOf_lt_of_mem ‹j ∈ items›
    simp only [Json.list.sizeOf_spec]
    omega
  · have hlt := List.sizeOf_lt_of_mem ‹f ∈ fields›
    have hsnd : sizeOf f.2 < sizeOf f := by
      cases f
      simp only [Prod.mk.sizeOf_spec]
      omega
    simp only [Json.record.sizeOf_spec]
    omega

mutual

/-- The value that a tree is the JSON of. -/
def value : Json → Value
  | null => .null
  | int n => .int n
  | text s => .text s
  | list items => .list (values items)
  | record fields => .record (fieldValues fields)

def values : List Json → List Value
  | [] => []
  | item :: rest => value item :: values rest

def fieldValues : List (String × Json) → List (String × Value)
  | [] => []
  | (name, item) :: rest => (name, value item) :: fieldValues rest

end

theorem values_eq_map (items : List Json) : values items = items.map value := by
  induction items with
  | nil => rfl
  | cons item rest ih => rw [values, ih, List.map_cons]

theorem fieldValues_eq_map (fields : List (String × Json)) :
    fieldValues fields = fields.map fun f => (f.1, f.2.value) := by
  induction fields with
  | nil => rfl
  | cons f rest ih => rw [fieldValues, ih, List.map_cons]

/-- The name of a field, with what stands in front of its value. -/
def writtenName (name : String) : List Char := writtenText name ++ [':', ' ']

def writtenField (depth : Nat) (f : String × Json) : List Char :=
  writtenName f.1 ++ f.2.written depth

theorem writtenItems_eq_map (depth : Nat) (items : List Json) :
    writtenItems depth items = items.map (written depth) := by
  induction items with
  | nil => rfl
  | cons item rest ih => rw [writtenItems, ih, List.map_cons]

theorem writtenFields_eq_map (depth : Nat) (fields : List (String × Json)) :
    writtenFields depth fields = fields.map (writtenField depth) := by
  induction fields with
  | nil => rfl
  | cons f rest ih => rw [writtenFields, ih, List.map_cons, writtenField, writtenName]

variable {real : List Char → Value} {t cs rest : List Char} {c : Char} {n depth : Nat}

/-! ## Texts -/

theorem hexValue?_hexDigit {d : Nat} (h : d < 16) : hexValue? (Text.hexDigit d) = some d := by
  revert d
  decide

theorem length_hexDigits (places n : Nat) : (Text.hexDigits places n).length = places := by
  induction places generalizing n with
  | zero => rfl
  | succ places ih => rw [Text.hexDigits, List.length_append, ih, List.length_singleton]

theorem hexNumber?_hexDigits (places n : Nat) :
    hexNumber? (Text.hexDigits places n) = some (n % 16 ^ places) := by
  induction places generalizing n with
  | zero => exact congrArg some (Nat.mod_one n).symm
  | succ places ih =>
    have ih := ih (n / 16)
    unfold hexNumber? at ih ⊢
    rw [Text.hexDigits, List.foldlM_append, ih]
    have hdigit := hexValue?_hexDigit (Nat.mod_lt n (by decide : 0 < 16))
    simp only [Option.bind_eq_bind, Option.bind_some, List.foldlM_cons, List.foldlM_nil, hdigit,
      Option.map_some]
    rw [Nat.pow_succ', Nat.mod_mul, Nat.add_comm]
    rfl

theorem isUnit_hexDigits (h : n < 0x10000) (rest : List Char) :
    IsUnit ('u' :: (Text.hexDigits 4 n ++ rest)) n rest := by
  have hlt : n < 16 ^ 4 := h
  refine .digits (length_hexDigits 4 n) ?_
  rw [hexNumber?_hexDigits, Nat.mod_eq_of_lt hlt]

theorem isPair_surrogates (h : 0x10000 ≤ c.toNat) :
    IsPair (surrogates c.toNat).1 (surrogates c.toNat).2 c := by
  have hlt : c.toNat < 0x110000 := c.valid.elim (fun hlow => hlow.trans (by decide)) And.right
  constructor <;> (simp only [surrogates]; omega)

theorem isEscape_codePointEscape (c : Char) (rest : List Char) :
    ∃ t, codePointEscape c.toNat ++ rest = '\\' :: t ∧ IsEscape t c rest := by
  rw [codePointEscape]
  split
  · next h => exact ⟨_, rfl, .unit (isUnit_hexDigits h rest)⟩
  · next h =>
    have hpair := isPair_surrogates (Nat.le_of_not_lt h)
    refine ⟨_, ?_, .pair (isUnit_hexDigits (hpair.high_lt.trans (by decide)) _)
      (isUnit_hexDigits (hpair.low_lt.trans (by decide)) rest) hpair⟩
    simp [unitEscape]

theorem mem_letterEscapes {letter : Char} (h : letterEscapes.lookup c = some letter) :
    (c, letter) ∈ letterEscapes := by
  obtain ⟨before, after, hescapes, -⟩ := List.lookup_eq_some_iff.mp h
  rw [hescapes]
  exact List.mem_append_right _ List.mem_cons_self

theorem lookup_letters {letter : Char} (h : letterEscapes.lookup c = some letter) :
    letters.lookup letter = some c := by
  have hletters : ∀ e ∈ letterEscapes, letters.lookup e.2 = some e.1 := by decide
  exact hletters _ (mem_letterEscapes h)

theorem characters_writtenChar (h : Characters t cs rest) :
    Characters (writtenChar c ++ t) (c :: cs) rest := by
  rw [writtenChar]
  split
  · next letter hletter =>
    exact .escape (.letter (lookup_letters hletter)) h
  · next hnone =>
    split
    · next hrange =>
      refine .plain hrange.1 ?_ ?_ h
      · rintro rfl
        cases hnone
      · rintro rfl
        cases hnone
    · obtain ⟨u, hu, hescape⟩ := isEscape_codePointEscape c t
      rw [hu]
      exact .escape hescape h

theorem isText_writtenText (s : String) (rest : List Char) :
    IsText (writtenText s ++ rest) s rest := by
  have hcharacters (cs : List Char) :
      Characters (cs.flatMap writtenChar ++ '\x22' :: rest) cs rest := by
    induction cs with
    | nil => exact .close
    | cons c cs ih =>
      rw [List.flatMap_cons, List.append_assoc]
      exact characters_writtenChar ih
  have hquoted : writtenText s ++ rest =
      '\x22' :: (s.toList.flatMap writtenChar ++ '\x22' :: rest) := by simp [writtenText]
  rw [hquoted]
  exact .quoted (hcharacters s.toList)

example : writtenText "\"𝄞" = "\"\\\"\\ud834\\udd1e\"".toList := by decide

/-! ## Numbers -/

theorem eq_zero_of_head?_toDigits {n : Nat} (h : (Nat.toDigits 10 n).head? = some '0') :
    n = 0 := by
  have hsmall : ∀ d < 10, Nat.digitChar d = '0' → d = 0 := by decide
  induction n using Nat.strong_induction_on with
  | _ n ih =>
    rcases Nat.lt_or_ge n 10 with hlt | hge
    · rw [Nat.toDigits_of_lt_base hlt] at h
      exact hsmall n hlt (Option.some.inj h)
    · rw [Nat.toDigits_of_base_le (by decide) hge,
        List.head?_append_of_ne_nil _ Nat.toDigits_ne_nil] at h
      have hdiv := ih (n / 10) (by omega) h
      omega

theorem isWhole_toDigits (n : Nat) : IsWhole (Nat.toDigits 10 n) where
  nonempty := Nat.toDigits_ne_nil
  digit := fun _ hc => Nat.isDigit_of_mem_toDigits (by decide) (by decide) hc
  lead := fun hzero => by
    rw [eq_zero_of_head?_toDigits hzero]
    rfl

theorem naturalNumber?_toDigits (n : Nat) : naturalNumber? (Nat.toDigits 10 n) = some n := by
  rw [naturalNumber?, if_pos (List.all_eq_true.mpr (isWhole_toDigits n).digit),
    Nat.ofDigitChars_toDigits (by decide) (by decide)]

/-- Decimal digits, behind a sign if the number is negative. -/
theorem toList_toString (n : Int) : ∃ m : Nat,
    ((toString n).toList = Nat.toDigits 10 m ∧ (m : Int) = n) ∨
      ((toString n).toList = '-' :: Nat.toDigits 10 m ∧ -(m : Int) = n) := by
  rw [Int.toString_eq_repr, Int.repr_eq_if]
  split
  · exact ⟨n.toNat, .inl ⟨Nat.toList_repr, by omega⟩⟩
  · refine ⟨(-n).toNat, .inr ⟨?_, by omega⟩⟩
    rw [String.toList_append, Nat.toList_repr]
    rfl

theorem isNumeral_toString (n : Int) : IsNumeral (toString n).toList := by
  obtain ⟨m, ⟨hdigits, -⟩ | ⟨hdigits, -⟩⟩ := toList_toString n
  · rw [hdigits]
    simpa using IsNumeral.parts (by decide : [] ∈ _) (isWhole_toDigits m) .none .none
  · rw [hdigits]
    simpa using IsNumeral.parts (by decide : ['-'] ∈ _) (isWhole_toDigits m) .none .none

theorem wholeNumber?_toString (n : Int) : wholeNumber? (toString n).toList = some n := by
  obtain ⟨m, ⟨hdigits, rfl⟩ | ⟨hdigits, rfl⟩⟩ := toList_toString n
  · rw [hdigits, wholeNumber?.eq_def]
    split
    · next digits heq =>
      have hsign := (isWhole_toDigits m).digit '-' (by simp [heq])
      cases hsign
    · rw [naturalNumber?_toDigits]
      rfl
  · rw [hdigits, wholeNumber?, naturalNumber?_toDigits]
    rfl

theorem isNumeralChar_of_mem_toString {n : Int} (h : c ∈ (toString n).toList) :
    isNumeralChar c = true := by
  have hdigit (m : Nat) (hc : c ∈ Nat.toDigits 10 m) : isNumeralChar c = true := by
    simp [isNumeralChar, (isWhole_toDigits m).digit c hc]
  obtain ⟨m, ⟨hdigits, -⟩ | ⟨hdigits, -⟩⟩ := toList_toString n
  · exact hdigit m (hdigits ▸ h)
  · rw [hdigits, List.mem_cons] at h
    rcases h with rfl | h
    · decide
    · exact hdigit m h

/-- The text ends, or goes on with what no word and no numeral goes on with. -/
def Ends (rest : List Char) : Prop :=
  ∀ c, rest.head? = some c → c.isAlpha = false ∧ isNumeralChar c = false

theorem atom_toString (n : Int) (h : Ends rest) :
    Atom real ((toString n).toList ++ rest) (.int n) rest := by
  obtain ⟨htake, hdrop⟩ := takeWhile_stretch (fun c hc => isNumeralChar_of_mem_toString hc)
    fun c hc => (h c hc).2
  let text := (toString n).toList ++ rest
  have hnumber : Atom real text (numeralValue real (text.takeWhile isNumeralChar))
      (text.dropWhile isNumeralChar) := .number (htake.symm ▸ isNumeral_toString n)
  rwa [htake, hdrop, numeralValue, wholeNumber?_toString] at hnumber

theorem atom_null (h : Ends rest) : Atom real ("null".toList ++ rest) .null rest := by
  obtain ⟨htake, hdrop⟩ := takeWhile_stretch
    (List.all_eq_true.mp (rfl : "null".toList.all Char.isAlpha = true)) fun c hc => (h c hc).1
  let text := "null".toList ++ rest
  have hlookup : words.lookup (text.takeWhile Char.isAlpha) = some .null := by
    rw [htake]
    rfl
  have hword : Atom real text .null (text.dropWhile Char.isAlpha) := .word hlookup
  rwa [hdrop] at hword

/-! ## Lists and records -/

/-- Items with a comma in front of each, on lines of their own. -/
def moreLines (depth : Nat) (items : List (List Char)) : List Char :=
  items.flatMap fun item => ',' :: newline depth ++ item

theorem enclosed_cons (first last : Char) (depth : Nat) (item : List Char)
    (items : List (List Char)) : enclosed first last depth (item :: items) =
      first :: (newline (depth + 1) ++ (item ++
        (moreLines (depth + 1) items ++ (newline depth ++ [last])))) := by
  have hflatten (sep : List Char) :
      (List.intersperse sep (item :: items)).flatten = item ++ items.flatMap (sep ++ ·) := by
    induction items generalizing item with
    | nil => rw [List.intersperse_singleton, List.flatten_singleton, List.flatMap_nil,
        List.append_nil]
    | cons next rest ih =>
      rw [List.intersperse_cons_cons, List.flatten_cons, List.flatten_cons, ih,
        List.flatMap_cons, List.append_assoc]
  rw [enclosed, if_neg (by simp), hflatten, moreLines]
  simp only [List.cons_append, List.append_assoc]

theorem skip_newline (depth : Nat) (t : List Char) : skip (newline depth ++ t) = skip t := by
  refine List.dropWhile_append_of_pos fun c hc => ?_
  rw [newline, List.mem_cons, List.mem_replicate] at hc
  rcases hc with rfl | ⟨-, rfl⟩ <;> rfl

theorem Opens.append (h : Opens t) (rest : List Char) : Opens (t ++ rest) := by
  obtain ⟨c, hc, hopening⟩ := h
  exact ⟨c, List.mem_head?_append_of_mem_head? hc, hopening⟩

theorem skip_last {last : Char} (h : isBlank last = false) (rest : List Char) :
    skip (last :: rest) = last :: rest :=
  List.dropWhile_cons_of_neg (by simp [h])

theorem ends_nil : Ends [] := fun _ hc => nomatch hc

theorem ends_newline (depth : Nat) (t : List Char) : Ends (newline depth ++ t) := by
  intro c hc
  obtain rfl := Option.some.inj hc
  decide

theorem ends_comma (t : List Char) : Ends (',' :: t) := by
  intro c hc
  obtain rfl := Option.some.inj hc
  decide

section Enclosed

variable {α : Type} {last : Char} {e : List Char × α} {entries : List (List Char × α)}

/-- The part is one of the entries as it stands in the text. -/
def IsEntry (entries : List (List Char × α)) (p : Part α) : Prop :=
  ∃ e ∈ entries, p.start = e.1 ++ p.rest ∧ p.item = e.2 ∧ Ends p.rest

theorem isEntry_cons {after : List Char} {parts : List (Part α)} (hends : Ends after)
    (h : ∀ p ∈ parts, IsEntry entries p) :
    ∀ p ∈ ⟨e.1 ++ after, e.2, after⟩ :: parts, IsEntry (e :: entries) p := by
  intro p hp
  rcases List.mem_cons.mp hp with rfl | hp
  · exact ⟨e, List.mem_cons_self, rfl, rfl, hends⟩
  · obtain ⟨f, hf, hentry⟩ := h p hp
    exact ⟨f, List.mem_cons_of_mem _ hf, hentry⟩

theorem exists_continued (hlast : isBlank last = false) (inner outer : Nat)
    (hopens : ∀ e ∈ entries, Opens e.1) (rest : List Char) :
    let text := moreLines inner (entries.map (·.1)) ++ (newline outer ++ last :: rest)
    Ends text ∧ ∃ parts, Continued last text parts rest ∧
      parts.map (·.item) = entries.map (·.2) ∧ ∀ p ∈ parts, IsEntry entries p := by
  induction entries with
  | nil =>
    refine ⟨ends_newline outer _, [], .close ?_, rfl, by simp⟩
    exact (skip_newline outer _).trans (skip_last hlast rest)
  | cons e entries ih =>
    obtain ⟨hends, parts, hparts, hitems, hentries⟩ :=
      ih fun f hf => hopens f (List.mem_cons_of_mem _ hf)
    let after := moreLines inner (entries.map (·.1)) ++ (newline outer ++ last :: rest)
    have htext : moreLines inner ((e :: entries).map (·.1)) ++ (newline outer ++ last :: rest) =
        ',' :: (newline inner ++ (e.1 ++ after)) := by
      simp [moreLines, after]
    intro text
    dsimp only [text]
    rw [htext]
    refine ⟨ends_comma _, ⟨e.1 ++ after, e.2, after⟩ :: parts, .comma rfl ?_ hparts, ?_, ?_⟩
    · rw [skip_newline, ((hopens e List.mem_cons_self).append after).skip_eq]
    · exact congrArg (e.2 :: ·) hitems
    · exact isEntry_cons hends hentries

/-- Entries between brackets are read one by one. -/
theorem exists_enclosed (first : Char) (hlast : isBlank last = false) (depth : Nat)
    (hopens : ∀ e ∈ entries, Opens e.1) (rest : List Char) :
    ∃ t parts, enclosed first last depth (entries.map (·.1)) ++ rest = first :: t ∧
      Enclosed last t parts rest ∧ parts.map (·.item) = entries.map (·.2) ∧
      ∀ p ∈ parts, IsEntry entries p := by
  cases entries with
  | nil => exact ⟨last :: rest, [], rfl, .none (skip_last hlast rest), rfl, by simp⟩
  | cons e entries =>
    obtain ⟨hends, parts, hparts, hitems, hentries⟩ := exists_continued hlast (depth + 1) depth
      (fun f hf => hopens f (List.mem_cons_of_mem _ hf)) rest
    let after := moreLines (depth + 1) (entries.map (·.1)) ++ (newline depth ++ last :: rest)
    refine ⟨newline (depth + 1) ++ (e.1 ++ after), ⟨e.1 ++ after, e.2, after⟩ :: parts, ?_,
      .parts ?_ hparts, congrArg (e.2 :: ·) hitems, ?_⟩
    · rw [List.map_cons, enclosed_cons]
      simp [after]
    · rw [skip_newline, ((hopens e List.mem_cons_self).append after).skip_eq]
    · exact isEntry_cons hends hentries

end Enclosed

theorem names_writtenName (name : String) (h : Opens t) :
    Names (writtenName name ++ t) name t := by
  have hnames := Names.colon (isText_writtenText name (':' :: ' ' :: t)) rfl
  have hskip : skip (' ' :: t) = t := h.skip_eq
  rw [hskip] at hnames
  simpa [writtenName] using hnames

/-- A tree that is written is read as its value, whatever comes after it. -/
def ReadsBack (real : List Char → Value) (j : Json) : Prop :=
  ∀ depth rest, Ends rest → Reads real (j.written depth ++ rest) j.value rest

theorem readsBack_list {items : List Json} (h : ∀ j ∈ items, ReadsBack real j) :
    ReadsBack real (list items) := by
  intro depth rest _
  let entries := items.map fun j => (j.written (depth + 1), j.value)
  have hopens : ∀ e ∈ entries, Opens e.1 := by
    intro e he
    obtain ⟨j, hj, rfl⟩ := List.mem_map.mp he
    simpa using (h j hj (depth + 1) [] ends_nil).opens
  obtain ⟨t, parts, htext, hparts, hitems, hentries⟩ :=
    exists_enclosed '[' (rfl : isBlank ']' = false) depth hopens rest
  have hwritten : (list items).written depth ++ rest = '[' :: t := by
    rw [written, writtenItems_eq_map, ← htext, List.map_map]
    rfl
  have hvalue : (list items).value = .list (parts.map (·.item)) := by
    rw [value, values_eq_map, hitems, List.map_map]
    rfl
  rw [hwritten, hvalue]
  refine .list parts (fun p hp => ?_) hparts
  obtain ⟨e, he, hstart, hitem, hends⟩ := hentries p hp
  obtain ⟨j, hj, rfl⟩ := List.mem_map.mp he
  rw [hstart, hitem]
  exact h j hj (depth + 1) p.rest hends

theorem readsBack_record {fields : List (String × Json)} (h : ∀ f ∈ fields, ReadsBack real f.2) :
    ReadsBack real (record fields) := by
  intro depth rest _
  let entries := fields.map fun f => (writtenField (depth + 1) f, (f.1, f.2.value))
  have hopens : ∀ e ∈ entries, Opens e.1 := by
    intro e he
    obtain ⟨f, -, rfl⟩ := List.mem_map.mp he
    exact ⟨'\x22', rfl, by decide⟩
  obtain ⟨t, parts, htext, hparts, hitems, hentries⟩ :=
    exists_enclosed '\x7b' (rfl : isBlank '\x7d' = false) depth hopens rest
  have hwritten : (record fields).written depth ++ rest = '\x7b' :: t := by
    rw [written, writtenFields_eq_map, ← htext, List.map_map]
    rfl
  have hvalue : (record fields).value = .record (parts.map (·.item)) := by
    rw [value, fieldValues_eq_map, hitems, List.map_map]
    rfl
  -- the value of a field starts where its name, as it was written, ends
  let body (p : Part (String × Value)) : List Char := p.start.drop (writtenName p.item.1).length
  have hfield (p : Part (String × Value)) (hp : p ∈ parts) :
      ∃ f ∈ fields, p.start = writtenName f.1 ++ body p ∧ p.item = (f.1, f.2.value) ∧
        Reads real (body p) f.2.value p.rest := by
    obtain ⟨e, he, hstart, hitem, hends⟩ := hentries p hp
    obtain ⟨f, hf, rfl⟩ := List.mem_map.mp he
    have hstart : p.start = writtenName f.1 ++ (f.2.written (depth + 1) ++ p.rest) := by
      rw [hstart, writtenField, List.append_assoc]
    have hbody : body p = f.2.written (depth + 1) ++ p.rest := by
      dsimp only [body]
      rw [hstart, hitem, List.drop_left]
    exact ⟨f, hf, hbody ▸ hstart, hitem, hbody ▸ h f hf (depth + 1) p.rest hends⟩
  rw [hwritten, hvalue]
  refine .record parts body (fun p hp => ?_) (fun p hp => ?_) hparts
  · obtain ⟨f, -, hstart, hitem, hreads⟩ := hfield p hp
    rw [hstart, hitem]
    exact names_writtenName f.1 hreads.opens
  · obtain ⟨f, -, -, hitem, hreads⟩ := hfield p hp
    rw [hitem]
    exact hreads

theorem readsBack (j : Json) : ReadsBack real j := by
  induction j using induct with
  | null => exact fun _ _ h => .atom (atom_null h)
  | int n => exact fun _ _ h => .atom (atom_toString n h)
  | text s => exact fun _ rest _ => .atom (.text (isText_writtenText s rest))
  | list items ih => exact readsBack_list ih
  | record fields ih => exact readsBack_record ih

/-! ## Texts of trees -/

theorem areWritable_eq_all (items : List Json) : areWritable items = items.all isWritable := by
  induction items with
  | nil => rfl
  | cons item rest ih => rw [areWritable, ih, List.all_cons]

theorem toText?_eq_some_iff {j : Json} {text : String} :
    j.toText? = some text ↔ j.isWritable = true ∧ text = String.ofList (j.written 0) := by
  rw [toText?, Option.ite_none_right_eq_some, Option.some.injEq]
  exact and_congr_right fun _ => eq_comm

theorem ends_of_isBlank (h : rest.all isBlank = true) : Ends rest := by
  intro c hc
  have hblank := List.all_eq_true.mp h c (List.mem_of_mem_head? hc)
  simp only [isBlank, Bool.or_eq_true, decide_eq_true_eq] at hblank
  rcases hblank with ((rfl | rfl) | rfl) | rfl <;> decide

/-- The text of a tree, with white space after it, stands for the value and nothing else. -/
theorem denotes_toText?_iff {j : Json} {text after : String} {v : Value}
    (htext : j.toText? = some text) (hafter : after.toList.all isBlank = true) :
    Denotes real (text ++ after) v ↔ v = j.value := by
  obtain ⟨-, rfl⟩ := toText?_eq_some_iff.mp htext
  have hreads : Reads real (j.written 0 ++ after.toList) j.value after.toList :=
    readsBack j 0 after.toList (ends_of_isBlank hafter)
  have hdenotes : Denotes real (String.ofList (j.written 0) ++ after) j.value := by
    refine ⟨after.toList, ?_, List.dropWhile_eq_nil_iff.mpr (List.all_eq_true.mp hafter)⟩
    rw [String.toList_append, String.toList_ofList, hreads.opens.skip_eq]
    exact hreads
  constructor
  · intro h
    exact h.unique hdenotes
  · rintro rfl
    exact hdenotes

end Linting.Json
