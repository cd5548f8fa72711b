import Linting.Proofs.Stretch
import Linting.Value

/-! The texts of JSON and what they stand for, as a reader sees them. A text is read from its front:
a value takes what belongs to it and leaves the rest, white space may stand around every token, and
a text stands for at most one value. What becomes of a number with a fraction or an exponent is left
to the reader. -/

namespace Linting.Json
set_option autoImplicit false

/-! ## White space -/

def isBlank (c : Char) : Bool := c = ' ' || c = '\t' || c = '\n' || c = '\r'

/-- A text from its next token on. -/
def skip (text : List Char) : List Char := text.dropWhile isBlank

/-! ## Words and numbers -/

/-- The values that have a word of their own. -/
def words : List (List Char × Value) :=
  [("null".toList, .null), ("true".toList, .bool true), ("false".toList, .bool false)]

/-- The digits of a whole number. A zero in front is the only digit. -/
structure IsWhole (digits : List Char) : Prop where
  nonempty : digits ≠ []
  digit : ∀ c ∈ digits, c.isDigit = true
  lead : digits.head? = some '0' → digits = ['0']

inductive IsFraction : List Char → Prop where
  | none : IsFraction []
  | some {digits : List Char} (hne : digits ≠ []) (h : ∀ c ∈ digits, c.isDigit = true) :
    IsFraction ('.' :: digits)

inductive IsExponent : List Char → Prop where
  | none : IsExponent []
  | some {letter : Char} {sign digits : List Char} (hletter : letter ∈ ['e', 'E'])
    (hsign : sign ∈ [[], ['+'], ['-']]) (hne : digits ≠ [])
    (h : ∀ c ∈ digits, c.isDigit = true) : IsExponent (letter :: sign ++ digits)

inductive IsNumeral : List Char → Prop where
  | parts {sign whole fraction exponent : List Char} (hsign : sign ∈ [[], ['-']])
    (hwhole : IsWhole whole) (hfraction : IsFraction fraction) (hexponent : IsExponent exponent) :
    IsNumeral (sign ++ whole ++ fraction ++ exponent)

/-- The characters of numerals. In a text of JSON none of them may follow a numeral, which so goes
on as long as they do. -/
def isNumeralChar (c : Char) : Bool := c.isDigit || ['+', '-', '.', 'e', 'E'].contains c

/-- The number that decimal digits make. -/
def naturalNumber? (digits : List Char) : Option Nat :=
  if digits.all Char.isDigit then some (Nat.ofDigitChars 10 digits 0) else none

def wholeNumber? : List Char → Option Int
  | '-' :: digits => (naturalNumber? digits).map fun n => -(n : Int)
  | digits => (naturalNumber? digits).map fun n => (n : Int)

/-- A numeral that has neither fraction nor exponent is the whole number; `real` tells what the
reader makes of the others. -/
def numeralValue (real : List Char → Value) (numeral : List Char) : Value :=
  match wholeNumber? numeral with
  | some n => .int n
  | none => real numeral

/-! ## Texts between quotes -/

/-- The characters that a backslash and a letter stand for. -/
def letters : List (Char × Char) :=
  [('\x22', '\x22'), ('\\', '\\'), ('/', '/'), ('b', '\x08'), ('f', '\x0c'), ('n', '\n'),
    ('r', '\r'), ('t', '\t')]

def hexValue? (c : Char) : Option Nat :=
  if c.isDigit then some (c.toNat - '0'.toNat)
  else if 'a' ≤ c ∧ c ≤ 'f' then some (c.toNat - 'a'.toNat + 10)
  else if 'A' ≤ c ∧ c ≤ 'F' then some (c.toNat - 'A'.toNat + 10)
  else none

def hexNumber? (digits : List Char) : Option Nat :=
  digits.foldlM (fun n c => (hexValue? c).map (16 * n + ·)) 0

/-- Four digits after their letter, the number that they are, and what is left after them. -/
inductive IsUnit : List Char → Nat → List Char → Prop where
  | digits {digits rest : List Char} {n : Nat} (hlength : digits.length = 4)
    (h : hexNumber? digits = some n) : IsUnit ('u' :: (digits ++ rest)) n rest

/-- Two surrogates, and the character that they stand for in UTF-16. -/
structure IsPair (high low : Nat) (c : Char) : Prop where
  high_le : 0xD800 ≤ high
  high_lt : high < 0xDC00
  low_le : 0xDC00 ≤ low
  low_lt : low < 0xE000
  char : c.toNat = 0x10000 + (high - 0xD800) * 0x400 + (low - 0xDC00)

/-- What may follow a backslash, and the character it stands for. A surrogate without its pair
stands for none. -/
inductive IsEscape : List Char → Char → List Char → Prop where
  | letter {letter c : Char} {rest : List Char} (h : letters.lookup letter = some c) :
    IsEscape (letter :: rest) c rest
  | unit {c : Char} {t rest : List Char} (h : IsUnit t c.toNat rest) : IsEscape t c rest
  | pair {high low : Nat} {c : Char} {t u rest : List Char} (hhigh : IsUnit t high ('\\' :: u))
    (hlow : IsUnit u low rest) (hpair : IsPair high low c) : IsEscape t c rest

/-- Characters up to the closing quote. -/
inductive Characters : List Char → List Char → List Char → Prop where
  | close {rest : List Char} : Characters ('\x22' :: rest) [] rest
  | plain {c : Char} {t cs rest : List Char} (hcontrol : ' ' ≤ c) (hquote : c ≠ '\x22')
    (hescape : c ≠ '\\') (h : Characters t cs rest) : Characters (c :: t) (c :: cs) rest
  | escape {c : Char} {t u cs rest : List Char} (hescape : IsEscape t c u)
    (h : Characters u cs rest) : Characters ('\\' :: t) (c :: cs) rest

inductive IsText : List Char → String → List Char → Prop where
  | quoted {t rest : List Char} {s : String} (h : Characters t s.toList rest) :
    IsText ('\x22' :: t) s rest

/-! ## Values -/

/-- A stretch of a text: where it starts, what it is read as, and what is left after it. -/
@[ext]
structure Part (α : Type) where
  start : List Char
  item : α
  rest : List Char

/-- Parts with a comma in front of each, up to a closing bracket. -/
inductive Continued {α : Type} (last : Char) : List Char → List (Part α) → List Char → Prop where
  | close {t rest : List Char} (h : skip t = last :: rest) : Continued last t [] rest
  | comma {t u rest : List Char} {p : Part α} {ps : List (Part α)} (hcomma : skip t = ',' :: u)
    (hstart : skip u = p.start) (h : Continued last p.rest ps rest) :
    Continued last t (p :: ps) rest

/-- Parts with commas between them, up to a closing bracket. -/
inductive Enclosed {α : Type} (last : Char) : List Char → List (Part α) → List Char → Prop where
  | none {t rest : List Char} (h : skip t = last :: rest) : Enclosed last t [] rest
  | parts {t rest : List Char} {p : Part α} {ps : List (Part α)} (hstart : skip t = p.start)
    (h : Continued last p.rest ps rest) : Enclosed last t (p :: ps) rest

/-- The name in front of a field, up to where its value starts. -/
inductive Names : List Char → String → List Char → Prop where
  | colon {t u w : List Char} {name : String} (hname : IsText t name u) (h : skip u = ':' :: w) :
    Names t name (skip w)

/-- A value that holds no others. -/
inductive Atom (real : List Char → Value) : List Char → Value → List Char → Prop where
  | word {t : List Char} {v : Value} (h : words.lookup (t.takeWhile Char.isAlpha) = some v) :
    Atom real t v (t.dropWhile Char.isAlpha)
  | number {t : List Char} (h : IsNumeral (t.takeWhile isNumeralChar)) :
    Atom real t (numeralValue real (t.takeWhile isNumeralChar)) (t.dropWhile isNumeralChar)
  | text {t rest : List Char} {s : String} (h : IsText t s rest) : Atom real t (.text s) rest

/-- A value at the front of a text, and what is left after it. -/
inductive Reads (real : List Char → Value) : List Char → Value → List Char → Prop where
  | atom {t rest : List Char} {v : Value} (h : Atom real t v rest) : Reads real t v rest
  | list {t rest : List Char} (parts : List (Part Value))
    (hitem : ∀ p ∈ parts, Reads real p.start p.item p.rest) (h : Enclosed ']' t parts rest) :
    Reads real ('[' :: t) (.list (parts.map (·.item))) rest
  | record {t rest : List Char} (parts : List (Part (String × Value)))
    (body : Part (String × Value) → List Char)
    (hname : ∀ p ∈ parts, Names p.start p.item.1 (body p))
    (hitem : ∀ p ∈ parts, Reads real (body p) p.item.2 p.rest) (h : Enclosed '\x7d' t parts rest) :
    Reads real ('\x7b' :: t) (.record (parts.map (·.item))) rest

/-- The text, but for white space around it, is that of the value. -/
def Denotes (real : List Char → Value) (text : String) (v : Value) : Prop :=
  ∃ rest, Reads real (skip text.toList) v rest ∧ skip rest = []

/-- The reader takes every text of JSON, for what it stands for. -/
def Conforms (read : String → Option Value) : Prop :=
  ∃ real, ∀ text v, Denotes real text v → read text = some v

variable {real : List Char → Value} {t rest rest' : List Char} {v v' : Value}

/-! ## A text stands for one value -/

section Texts

variable {u cs cs' : List Char} {n n' : Nat} {c c' : Char}

theorem IsUnit.unique (h : IsUnit t n rest) (h' : IsUnit t n' rest') : n = n' ∧ rest = rest' := by
  cases h with
  | @digits ds _ _ hlength hds =>
    generalize ht : 'u' :: (ds ++ rest) = t at h'
    cases h' with
    | @digits ds' _ _ hlength' hds' =>
      obtain ⟨rfl, rfl⟩ := List.append_inj (List.tail_eq_of_cons_eq ht)
        (hlength.trans hlength'.symm)
      exact ⟨Option.some.inj (hds.symm.trans hds'), rfl⟩

theorem IsUnit.lookup_letters {letter : Char} (h : IsUnit (letter :: t) n rest) :
    letters.lookup letter = none := by
  cases h
  rfl

/-- No character is a surrogate. -/
theorem IsPair.ne_toNat {high low : Nat} (h : IsPair high low c) : high ≠ c'.toNat := by
  have hlow := h.high_le
  have hhigh := h.high_lt
  rcases c'.valid with hvalid | hvalid
  · change c'.toNat < 0xD800 at hvalid
    omega
  · have hvalid : 0xDFFF < c'.toNat := hvalid.1
    omega

theorem IsEscape.unique (h : IsEscape t c rest) (h' : IsEscape t c' rest') :
    c = c' ∧ rest = rest' := by
  cases h with
  | letter h =>
    cases h' with
    | letter h' => exact ⟨Option.some.inj (h.symm.trans h'), rfl⟩
    | unit h' => cases h'.lookup_letters.symm.trans h
    | pair hhigh => cases hhigh.lookup_letters.symm.trans h
  | unit h =>
    cases h' with
    | letter h' => cases h.lookup_letters.symm.trans h'
    | unit h' =>
      obtain ⟨hc, hrest⟩ := h.unique h'
      exact ⟨Char.toNat_inj.mp hc, hrest⟩
    | pair hhigh _ hpair => exact absurd (hhigh.unique h).1 hpair.ne_toNat
  | pair hhigh hlow hpair =>
    cases h' with
    | letter h' => cases hhigh.lookup_letters.symm.trans h'
    | unit h' => exact absurd (hhigh.unique h').1 hpair.ne_toNat
    | pair hhigh' hlow' hpair' =>
      obtain ⟨rfl, hu⟩ := hhigh.unique hhigh'
      obtain rfl := List.tail_eq_of_cons_eq hu
      obtain ⟨rfl, hrest⟩ := hlow.unique hlow'
      exact ⟨Char.toNat_inj.mp (hpair.char.trans hpair'.char.symm), hrest⟩

theorem Characters.unique (h : Characters t cs rest) (h' : Characters t cs' rest') :
    cs = cs' ∧ rest = rest' := by
  induction h generalizing cs' with
  | close =>
    cases h' with
    | close => exact ⟨rfl, rfl⟩
    | plain _ hquote => exact absurd rfl hquote
  | plain _ hquote hescape _ ih =>
    cases h' with
    | close => exact absurd rfl hquote
    | plain _ _ _ h' =>
      obtain ⟨rfl, hrest⟩ := ih h'
      exact ⟨rfl, hrest⟩
    | escape => exact absurd rfl hescape
  | escape hc _ ih =>
    cases h' with
    | plain _ _ hescape => exact absurd rfl hescape
    | escape hc' h' =>
      obtain ⟨rfl, rfl⟩ := hc.unique hc'
      obtain ⟨rfl, hrest⟩ := ih h'
      exact ⟨rfl, hrest⟩

theorem IsText.unique {s s' : String} (h : IsText t s rest) (h' : IsText t s' rest') :
    s = s' ∧ rest = rest' := by
  cases h with
  | quoted h =>
    cases h' with
    | quoted h' =>
      obtain ⟨hs, hrest⟩ := h.unique h'
      exact ⟨String.toList_inj.mp hs, hrest⟩

theorem Names.unique {name name' : String} (h : Names t name rest) (h' : Names t name' rest') :
    name = name' ∧ rest = rest' := by
  cases h with
  | colon hname h =>
    cases h' with
    | colon hname' h' =>
      obtain ⟨rfl, rfl⟩ := hname.unique hname'
      obtain rfl := List.tail_eq_of_cons_eq (h.symm.trans h')
      exact ⟨rfl, rfl⟩

end Texts

/-! ### How values start -/

theorem head?_word (h : words.lookup (t.takeWhile Char.isAlpha) = some v) :
    ∃ c ∈ t.head?, c.isAlpha = true := by
  cases hword : (t.takeWhile Char.isAlpha).head? with
  | none =>
    rw [List.head?_eq_none_iff.mp hword] at h
    cases h
  | some c => exact ⟨c, head?_takeWhile hword⟩

theorem IsNumeral.head? (h : IsNumeral t) : ∃ c ∈ t.head?, c = '-' ∨ c.isDigit = true := by
  cases h with
  | @parts sign whole _ _ hsign hwhole =>
    cases sign with
    | nil =>
      cases whole with
      | nil => exact absurd rfl hwhole.nonempty
      | cons c cs => exact ⟨c, rfl, .inr (hwhole.digit c List.mem_cons_self)⟩
    | cons c cs =>
      have hc : c :: cs = ['-'] := by simpa using hsign
      exact ⟨c, rfl, .inl (List.head_eq_of_cons_eq hc)⟩

theorem head?_number (h : IsNumeral (t.takeWhile isNumeralChar)) :
    ∃ c ∈ t.head?, c = '-' ∨ c.isDigit = true := by
  obtain ⟨c, hc, hsign⟩ := h.head?
  exact ⟨c, (head?_takeWhile hc).1, hsign⟩

theorem IsText.head? {s : String} (h : IsText t s rest) : t.head? = some '\x22' := by
  cases h
  rfl

/-- The characters that values and names start with. -/
def isOpening (c : Char) : Bool :=
  c.isAlpha || c.isDigit || ['-', '\x22', '[', '\x7b'].contains c

def Opens (t : List Char) : Prop := ∃ c ∈ t.head?, isOpening c = true

theorem Names.opens {name : String} (h : Names t name rest) : Opens t := by
  cases h with
  | colon hname => exact ⟨'\x22', hname.head?, by decide⟩

theorem Atom.head? (h : Atom real t v rest) :
    ∃ c ∈ t.head?, isOpening c = true ∧ c ≠ '[' ∧ c ≠ '\x7b' := by
  cases h with
  | word h =>
    obtain ⟨c, hc, halpha⟩ := head?_word h
    refine ⟨c, hc, by simp [isOpening, halpha], ?_, ?_⟩ <;>
      · rintro rfl
        exact absurd halpha (by decide)
  | number h =>
    obtain ⟨c, hc, rfl | hdigit⟩ := head?_number h
    · exact ⟨'-', hc, by decide⟩
    · refine ⟨c, hc, by simp [isOpening, hdigit], ?_, ?_⟩ <;>
        · rintro rfl
          exact absurd hdigit (by decide)
  | text h => exact ⟨'\x22', h.head?, by decide⟩

theorem Atom.ne_bracket {c : Char} (h : Atom real (c :: t) v rest) : c ≠ '[' ∧ c ≠ '\x7b' := by
  obtain ⟨d, hd, -, hbracket⟩ := h.head?
  obtain rfl := Option.some.inj hd
  exact hbracket

theorem Reads.opens (h : Reads real t v rest) : Opens t := by
  cases h with
  | atom h =>
    obtain ⟨c, hc, hopening, -⟩ := h.head?
    exact ⟨c, hc, hopening⟩
  | list => exact ⟨'[', rfl, by decide⟩
  | record => exact ⟨'\x7b', rfl, by decide⟩

theorem not_isBlank_of_isOpening {c : Char} (h : isOpening c = true) : isBlank c = false := by
  cases hblank : isBlank c with
  | false => rfl
  | true =>
    simp only [isBlank, Bool.or_eq_true, decide_eq_true_eq] at hblank
    rcases hblank with ((rfl | rfl) | rfl) | rfl <;> exact absurd h (by decide)

theorem Opens.head?_ne {last : Char} (h : Opens t) (hlast : isOpening last = false) :
    t.head? ≠ some last := by
  intro heq
  obtain ⟨c, hc, hopening⟩ := h
  obtain rfl := Option.mem_unique hc heq
  rw [hlast] at hopening
  cases hopening

theorem Opens.skip_eq (h : Opens t) : skip t = t := by
  obtain ⟨c, hc, hopening⟩ := h
  obtain ⟨u, rfl⟩ := List.head?_eq_some_iff.mp hc
  exact List.dropWhile_cons_of_neg (by simp [not_isBlank_of_isOpening hopening])

/-! ### Atoms and values -/

theorem not_isDigit_of_isAlpha {c : Char} (h : c.isAlpha = true) : c.isDigit = false := by
  cases hdigit : c.isDigit with
  | false => rfl
  | true =>
    have hle : c.val ≤ '9'.val := of_decide_eq_true ((Bool.and_eq_true _ _).mp hdigit).2
    rcases (Bool.or_eq_true c.isUpper c.isLower).mp h with hupper | hlower
    · have hge : 'A'.val ≤ c.val := (of_decide_eq_true hupper).1
      exact absurd (UInt32.le_trans hge hle) (by decide)
    · have hge : 'a'.val ≤ c.val := of_decide_eq_true ((Bool.and_eq_true _ _).mp hlower).1
      exact absurd (UInt32.le_trans hge hle) (by decide)

theorem lookup_words_of_number (h : IsNumeral (t.takeWhile isNumeralChar)) :
    words.lookup (t.takeWhile Char.isAlpha) = none := by
  cases hword : words.lookup (t.takeWhile Char.isAlpha) with
  | none => rfl
  | some v =>
    obtain ⟨c, hc, halpha⟩ := head?_word hword
    obtain ⟨d, hd, hsign⟩ := head?_number h
    obtain rfl := Option.mem_unique hc hd
    rcases hsign with rfl | hdigit
    · exact absurd halpha (by decide)
    · rw [not_isDigit_of_isAlpha halpha] at hdigit
      cases hdigit

theorem IsText.lookup_words {s : String} (h : IsText t s rest) :
    words.lookup (t.takeWhile Char.isAlpha) = none := by
  cases h
  rfl

theorem IsText.not_number {s : String} (h : IsText t s rest) :
    ¬ IsNumeral (t.takeWhile isNumeralChar) := by
  intro hnumber
  obtain ⟨c, hc, hsign⟩ := head?_number hnumber
  obtain rfl := Option.mem_unique hc h.head?
  exact absurd hsign (by decide)

theorem Atom.unique (h : Atom real t v rest) (h' : Atom real t v' rest') :
    v = v' ∧ rest = rest' := by
  cases h with
  | word h =>
    cases h' with
    | word h' => exact ⟨Option.some.inj (h.symm.trans h'), rfl⟩
    | number h' => cases (lookup_words_of_number h').symm.trans h
    | text h' => cases h'.lookup_words.symm.trans h
  | number h =>
    cases h' with
    | word h' => cases (lookup_words_of_number h).symm.trans h'
    | number => exact ⟨rfl, rfl⟩
    | text h' => exact absurd h h'.not_number
  | text h =>
    cases h' with
    | word h' => cases h.lookup_words.symm.trans h'
    | number h' => exact absurd h' h.not_number
    | text h' =>
      obtain ⟨rfl, hrest⟩ := h.unique h'
      exact ⟨rfl, hrest⟩

section Parts

variable {α : Type} {last : Char} {ps qs : List (Part α)}

theorem Continued.unique (h : Continued last t ps rest) (h' : Continued last t qs rest')
    (hlast : last ≠ ',') (hpart : ∀ p ∈ ps, ∀ q ∈ qs, p.start = q.start → p = q) :
    ps = qs ∧ rest = rest' := by
  induction h generalizing qs with
  | close hclose =>
    cases h' with
    | close hclose' => exact ⟨rfl, List.tail_eq_of_cons_eq (hclose.symm.trans hclose')⟩
    | comma hcomma => exact absurd (List.head_eq_of_cons_eq (hclose.symm.trans hcomma)) hlast
  | comma hcomma hstart _ ih =>
    cases h' with
    | close hclose => exact absurd (List.head_eq_of_cons_eq (hclose.symm.trans hcomma)) hlast
    | comma hcomma' hstart' h' =>
      obtain rfl := List.tail_eq_of_cons_eq (hcomma.symm.trans hcomma')
      obtain rfl := hpart _ List.mem_cons_self _ List.mem_cons_self (hstart.symm.trans hstart')
      obtain ⟨heq, hrest⟩ := ih h' fun p hp q hq =>
        hpart p (List.mem_cons_of_mem _ hp) q (List.mem_cons_of_mem _ hq)
      exact ⟨by rw [heq], hrest⟩

/-- Parts follow from the text if what is read at each place does. -/
theorem Enclosed.unique (h : Enclosed last t ps rest) (h' : Enclosed last t qs rest')
    (hcomma : last ≠ ',') (hlast : isOpening last = false)
    (hopens : ∀ p, p ∈ ps ∨ p ∈ qs → Opens p.start)
    (hpart : ∀ p ∈ ps, ∀ q ∈ qs, p.start = q.start → p = q) : ps = qs ∧ rest = rest' := by
  have hnone {u : List Char} {p : Part α} (hp : p ∈ ps ∨ p ∈ qs) (hclose : skip t = last :: u) :
      skip t ≠ p.start := by
    intro hstart
    exact (hopens p hp).head?_ne hlast (by rw [← hstart, hclose, List.head?_cons])
  cases h with
  | none hclose =>
    cases h' with
    | none hclose' => exact ⟨rfl, List.tail_eq_of_cons_eq (hclose.symm.trans hclose')⟩
    | parts hstart => exact absurd hstart (hnone (.inr List.mem_cons_self) hclose)
  | parts hstart h =>
    cases h' with
    | none hclose => exact absurd hstart (hnone (.inl List.mem_cons_self) hclose)
    | parts hstart' h' =>
      obtain rfl := hpart _ List.mem_cons_self _ List.mem_cons_self (hstart.symm.trans hstart')
      obtain ⟨heq, hrest⟩ := h.unique h' hcomma fun p hp q hq =>
        hpart p (List.mem_cons_of_mem _ hp) q (List.mem_cons_of_mem _ hq)
      exact ⟨by rw [heq], hrest⟩

end Parts

theorem Reads.unique (h : Reads real t v rest) (h' : Reads real t v' rest') :
    v = v' ∧ rest = rest' := by
  induction h generalizing v' rest' with
  | atom h =>
    cases h' with
    | atom h' => exact h.unique h'
    | list => exact absurd rfl h.ne_bracket.1
    | record => exact absurd rfl h.ne_bracket.2
  | list parts hitem h ih =>
    cases h' with
    | atom h' => exact absurd rfl h'.ne_bracket.1
    | list parts' hitem' h' =>
      have hopens (p : Part Value) (hp : p ∈ parts ∨ p ∈ parts') : Opens p.start :=
        hp.elim (fun hp => (hitem p hp).opens) fun hp => (hitem' p hp).opens
      obtain ⟨rfl, hrest⟩ := h.unique h' (by decide) rfl hopens fun p hp q hq hpq => by
        obtain ⟨hvalue, hrest⟩ := ih p hp (hpq ▸ hitem' q hq)
        exact Part.ext hpq hvalue hrest
      exact ⟨rfl, hrest⟩
  | record parts body hname hitem h ih =>
    cases h' with
    | atom h' => exact absurd rfl h'.ne_bracket.2
    | record parts' body' hname' hitem' h' =>
      have hopens (p : Part (String × Value)) (hp : p ∈ parts ∨ p ∈ parts') : Opens p.start :=
        hp.elim (fun hp => (hname p hp).opens) fun hp => (hname' p hp).opens
      obtain ⟨rfl, hrest⟩ := h.unique h' (by decide) rfl hopens fun p hp q hq hpq => by
        obtain ⟨hname, hbody⟩ := (hname p hp).unique (hpq ▸ hname' q hq)
        obtain ⟨hvalue, hrest⟩ := ih p hp (hbody ▸ hitem' q hq)
        exact Part.ext hpq (Prod.ext hname hvalue) hrest
      exact ⟨rfl, hrest⟩

theorem Denotes.unique {text : String} (h : Denotes real text v) (h' : Denotes real text v') :
    v = v' := by
  obtain ⟨_, h, -⟩ := h
  obtain ⟨_, h', -⟩ := h'
  exact (h.unique h').1

/-- There is a conforming reader for every way to read the numbers that are not whole. -/
theorem exists_reader (real : List Char → Value) :
    ∃ read : String → Option Value, ∀ text v, Denotes real text v → read text = some v := by
  classical
  refine ⟨fun text => if h : ∃ v, Denotes real text v then some h.choose else none, ?_⟩
  intro text v h
  have hexists : ∃ v, Denotes real text v := ⟨v, h⟩
  exact (dif_pos hexists).trans (congrArg some (hexists.choose_spec.unique h))

end Linting.Json
