import Linting.Proofs.Regex.Quiet
import Linting.Proofs.Stretch

/-! The layout of a regular expression: its text cut into the openers of named groups, the heads of
other groups, sets, comments, remarks and single tokens. A remark is a comment of the verbose mode.
Which tokens start a remark depends on the flags of the groups around, so the cut carries along a
scope. Main facts: a text has at most one layout, and the parts of a layout make up the text. -/

namespace Linting.Regex
set_option autoImplicit false

/-! ## Parts -/

inductive Part where
  | token (t : Token)
  | head (ts : List Token)
  | opener (short : Bool) (name : List Char)
  | bracket (body : List Token)
  | comment (body : List Token)
  | remark (body : List Token)
deriving DecidableEq, Repr

namespace Part

/-- The tokens of a part. An opener is followed by its name, a set ends with its bracket; the
parenthesis behind a comment and the end of the line behind a remark are parts of their own. -/
def tokens : Part → List Token
  | token t => [t]
  | head ts => .plain '(' :: ts
  | opener true name => [.plain '(', .plain '?', .plain '<'] ++ name.map .plain ++ [.plain '>']
  | opener false name =>
    [.plain '(', .plain '?', .plain 'P', .plain '<'] ++ name.map .plain ++ [.plain '>']
  | bracket body => .plain '[' :: body
  | comment body => .plain '(' :: .plain '?' :: .plain '#' :: body
  | remark body => .plain '#' :: body

/-- The name of the group that a part opens. -/
def name? : Part → Option String
  | opener _ name => some (String.ofList name)
  | _ => none

end Part

/-- The tokens of parts. -/
def tokensOf (parts : List Part) : List Token := parts.flatMap Part.tokens

/-! ## Cutting -/

/-- Whether the verbose mode holds at a place, and whether it will hold behind each group that is
open there, the innermost first. -/
structure Scope where
  verbose : Bool
  outer : List Bool
deriving DecidableEq, Repr

/-- The scope in a group, given the modes in the group and behind it. -/
def Scope.inside (m : Scope) (inner behind : Bool) : Scope := ⟨inner, behind :: m.outer⟩

/-- A text up to and with the first closing bracket, and what is behind it. -/
def throughBracket? : List Token → Option (List Token × List Token)
  | [] => none
  | t :: rest =>
    if t = .plain ']' then some ([t], rest)
    else (throughBracket? rest).map fun (body, behind) => (t :: body, behind)

/-- A set whose opening bracket has been read, and what is behind it. Its first member is one
whatever it is. -/
def setBody? : List Token → Option (List Token × List Token)
  | .plain '^' :: first :: rest =>
    (throughBracket? rest).map fun (body, behind) => (.plain '^' :: first :: body, behind)
  | first :: rest => (throughBracket? rest).map fun (body, behind) => (first :: body, behind)
  | [] => none

/-- A name of a group that an angle bracket ends, and what is behind the bracket. -/
def groupName? (rest : List Token) : Option (List Char × List Token) :=
  match Read.splitAtChar '>' rest with
  | some (name, behind, _) => if Unicode.isIdentifier name then some (name, behind) else none
  | none => none

def isFlagToken (t : Token) : Bool := t.isPlain fun c => c = '-' || (inlineFlag? c).isSome

/-- Whether the verbose mode holds where flags have been turned on and, behind a hyphen, off. -/
def verboseAfter (verbose : Bool) (flags : List Token) : Bool :=
  let isOn := fun t => t != Token.plain '-'
  (verbose || (flags.takeWhile isOn).contains (.plain 'x')) &&
    !(flags.dropWhile isOn).contains (.plain 'x')

def isBehindMark (t : Token) : Bool := t = .plain '=' || t = .plain '!'

/-- The part that starts with a parenthesis and a question mark, those two read. Flags in front of
a closing parenthesis go on to hold behind it. -/
def questionPart? (m : Scope) : List Token → Option (Part × Scope × List Token)
  | .plain 'P' :: .plain '<' :: rest =>
    (groupName? rest).map fun (name, behind) =>
      (.opener false name, m.inside m.verbose m.verbose, behind)
  | .plain '#' :: rest =>
    some (.comment (rest.takeWhile (· != .plain ')')), m.inside m.verbose m.verbose,
      rest.dropWhile (· != .plain ')'))
  | rest =>
    if rest.head? = some (.plain '<') ∧ ¬ rest.tail.head?.any isBehindMark then
      (groupName? rest.tail).map fun (name, behind) =>
        (.opener true name, m.inside m.verbose m.verbose, behind)
    else
      let flags := rest.takeWhile isFlagToken
      let behind := rest.dropWhile isFlagToken
      let inner := verboseAfter m.verbose flags
      some (.head (.plain '?' :: flags),
        m.inside inner (if behind.head? = some (.plain ')') then inner else m.verbose), behind)

/-- The part that starts with a token, the scope behind it and the rest of the text. -/
def partAt? (m : Scope) (t : Token) (rest : List Token) : Option (Part × Scope × List Token) :=
  if t = .plain '(' then
    if rest.head? = some (.plain '?') then questionPart? m rest.tail
    else some (.head [], m.inside m.verbose m.verbose, rest)
  else if t = .plain ')' then
    match m.outer with
    | [] => none
    | verbose :: outer => some (.token t, ⟨verbose, outer⟩, rest)
  else if t = .plain '[' then
    (setBody? rest).map fun (body, behind) => (.bracket body, m, behind)
  else if t = .plain '#' ∧ m.verbose then
    some (.remark (rest.takeWhile (· != .plain '\n')), m, rest.dropWhile (· != .plain '\n'))
  else some (.token t, m, rest)

def firstPart? (m : Scope) : List Token → Option (Part × Scope × List Token)
  | [] => none
  | t :: rest => partAt? m t rest

/-! ## What is cut off -/

/-- The inside of a set with its closing bracket: nothing but the first member may be one. -/
def IsSetBody (body : List Token) : Prop :=
  ∃ caret first inner, body = caret ++ first :: (inner ++ [.plain ']']) ∧ .plain ']' ∉ inner ∧
    (caret = [.plain '^'] ∨ caret = [] ∧ first ≠ .plain '^')

/-- Whether what follows a parenthesis and a question mark starts a comment or a name. -/
def StartsName (rest : List Token) : Prop :=
  rest.head? = some (.plain '#') ∨
    (rest.head? = some (.plain 'P') ∧ rest.tail.head? = some (.plain '<')) ∨
    (rest.head? = some (.plain '<') ∧ ¬ rest.tail.head?.any isBehindMark)

/-- What it takes for a part to be cut off in front of the rest of a text, and the scope behind. -/
inductive Cut (m : Scope) : Part → Scope → List Token → Prop where
  | token {t : Token} (rest : List Token) (hopen : t ≠ .plain '(') (hclose : t ≠ .plain ')')
    (hset : t ≠ .plain '[') (hremark : t = .plain '#' → m.verbose = false) :
    Cut m (.token t) m rest
  | close {verbose : Bool} {outer : List Bool} (rest : List Token)
    (h : m.outer = verbose :: outer) : Cut m (.token (.plain ')')) ⟨verbose, outer⟩ rest
  | group {rest : List Token} (h : rest.head? ≠ some (.plain '?')) :
    Cut m (.head []) (m.inside m.verbose m.verbose) rest
  | flags {flags rest : List Token} (hflags : ∀ t ∈ flags, isFlagToken t = true)
    (hend : ∀ t, rest.head? = some t → isFlagToken t = false)
    (hother : flags = [] → ¬ StartsName rest) :
    Cut m (.head (.plain '?' :: flags))
      (m.inside (verboseAfter m.verbose flags)
        (if rest.head? = some (.plain ')') then verboseAfter m.verbose flags else m.verbose)) rest
  | opener (short : Bool) {name : List Char} (rest : List Token)
    (h : Unicode.isIdentifier name = true) :
    Cut m (.opener short name) (m.inside m.verbose m.verbose) rest
  | bracket {body : List Token} (rest : List Token) (h : IsSetBody body) :
    Cut m (.bracket body) m rest
  | comment {body rest : List Token} (h : .plain ')' ∉ body)
    (hend : ∀ t, rest.head? = some t → t = .plain ')') :
    Cut m (.comment body) (m.inside m.verbose m.verbose) rest
  | remark {body rest : List Token} (hverbose : m.verbose = true) (h : .plain '\n' ∉ body)
    (hend : ∀ t, rest.head? = some t → t = .plain '\n') : Cut m (.remark body) m rest

theorem throughBracket?_eq_some_iff {ts body behind : List Token} :
    throughBracket? ts = some (body, behind) ↔
      ∃ inner, body = inner ++ [.plain ']'] ∧ .plain ']' ∉ inner ∧ ts = body ++ behind := by
  induction ts generalizing body with
  | nil =>
    constructor
    · intro h
      cases h
    · intro h
      obtain ⟨inner, rfl, -, h⟩ := h
      simp at h
  | cons t rest ih =>
    rw [throughBracket?]
    by_cases ht : t = .plain ']'
    · rw [if_pos ht]
      constructor
      · intro h
        cases h
        exact ⟨[], by rw [ht]; rfl, by simp, rfl⟩
      · intro h
        obtain ⟨inner, rfl, hinner, h⟩ := h
        cases inner with
        | nil =>
          cases h
          rfl
        | cons u inner =>
          rw [ht] at h
          cases h
          exact absurd (List.mem_cons_self ..) hinner
    · rw [if_neg ht, Option.map_eq_some_iff]
      constructor
      · intro h
        obtain ⟨⟨body', behind'⟩, hbody, heq⟩ := h
        cases heq
        obtain ⟨inner, rfl, hinner, rfl⟩ := ih.mp hbody
        exact ⟨t :: inner, rfl, by simp [hinner, Ne.symm ht], rfl⟩
      · intro h
        obtain ⟨inner, rfl, hinner, h⟩ := h
        cases inner with
        | nil =>
          cases h
          exact absurd rfl ht
        | cons u inner =>
          cases h
          refine ⟨(inner ++ [.plain ']'], behind), ih.mpr ⟨inner, rfl, ?_, rfl⟩, rfl⟩
          exact fun hmem => hinner (List.mem_cons_of_mem _ hmem)

theorem setBody?_eq_some_iff {ts body behind : List Token} :
    setBody? ts = some (body, behind) ↔ IsSetBody body ∧ ts = body ++ behind := by
  constructor
  · intro h
    unfold setBody? at h
    split at h
    · next first rest =>
      obtain ⟨⟨b, v⟩, hb, heq⟩ := Option.map_eq_some_iff.mp h
      cases heq
      obtain ⟨inner, rfl, hinner, rfl⟩ := throughBracket?_eq_some_iff.mp hb
      exact ⟨⟨[.plain '^'], first, inner, rfl, hinner, .inl rfl⟩, rfl⟩
    · next first rest hcaret =>
      obtain ⟨⟨b, v⟩, hb, heq⟩ := Option.map_eq_some_iff.mp h
      cases heq
      obtain ⟨inner, rfl, hinner, rfl⟩ := throughBracket?_eq_some_iff.mp hb
      refine ⟨⟨[], first, inner, rfl, hinner, .inr ⟨rfl, ?_⟩⟩, rfl⟩
      rintro rfl
      obtain ⟨u, us, hus⟩ := List.exists_cons_of_ne_nil
        (show inner ++ [.plain ']'] ++ behind ≠ [] by simp)
      exact hcaret u us rfl hus
    · cases h
  · intro h
    obtain ⟨⟨caret, first, inner, rfl, hinner, hcaret⟩, rfl⟩ := h
    have hthrough : throughBracket? (inner ++ [.plain ']'] ++ behind) =
        some (inner ++ [.plain ']'], behind) :=
      throughBracket?_eq_some_iff.mpr ⟨inner, rfl, hinner, rfl⟩
    rcases hcaret with rfl | ⟨rfl, hfirst⟩
    · change (throughBracket? (inner ++ [.plain ']'] ++ behind)).map _ = _
      rw [hthrough]
      rfl
    · have hset : setBody? (first :: (inner ++ [.plain ']'] ++ behind)) =
          (throughBracket? (inner ++ [.plain ']'] ++ behind)).map
            fun (body, behind) => (first :: body, behind) := by
        unfold setBody?
        split
        · next heq => exact absurd (List.cons.inj heq).1 hfirst
        · next heq =>
          obtain ⟨rfl, rfl⟩ := List.cons.inj heq
          rfl
        · next heq => cases heq
      rw [hthrough] at hset
      exact hset

theorem groupName?_eq_some_iff {ts behind : List Token} {name : List Char} :
    groupName? ts = some (name, behind) ↔
      Unicode.isIdentifier name = true ∧ ts = name.map .plain ++ .plain '>' :: behind := by
  constructor
  · intro h
    unfold groupName? at h
    split at h
    · next text rest size hsplit =>
      split at h
      · next hid =>
        cases h
        obtain ⟨w, rfl, -, rfl⟩ := Read.splitAtChar_eq_some hsplit
        have hw := eq_map_plain_of_quiet (Unicode.isIdentifier_quiet hid)
        exact ⟨hid, by rw [← hw]⟩
      · cases h
    · cases h
  · intro h
    obtain ⟨hid, rfl⟩ := h
    have hname : .plain '>' ∉ name.map Token.plain := by
      intro hmem
      obtain ⟨c, hc, heq⟩ := List.mem_map.mp hmem
      cases heq
      have hcontinue := Unicode.isIdentifierContinue_of_mem hid _ hc
      exact absurd hcontinue (by decide)
    obtain ⟨size, hsize⟩ := Read.splitAtChar_append hname behind
    have htext : (name.map Token.plain).flatMap Token.text = name := by
      rw [List.flatMap_map]
      exact List.flatMap_singleton' name
    rw [htext] at hsize
    rw [groupName?, hsize]
    exact if_pos hid

theorem opener_tokens (short : Bool) (name : List Char) :
    (Part.opener short name).tokens =
      .plain '(' :: .plain '?' :: ((if short then [] else [.plain 'P']) ++
        .plain '<' :: (name.map .plain ++ [.plain '>'])) := by
  cases short <;> rfl

theorem cut_of_questionPart? {m m' : Scope} {ts rest : List Token} {part : Part}
    (h : questionPart? m ts = some (part, m', rest)) :
    .plain '(' :: .plain '?' :: ts = part.tokens ++ rest ∧ Cut m part m' rest := by
  unfold questionPart? at h
  split at h
  · obtain ⟨⟨name, behind⟩, hname, heq⟩ := Option.map_eq_some_iff.mp h
    cases heq
    obtain ⟨hid, rfl⟩ := groupName?_eq_some_iff.mp hname
    exact ⟨by simp [Part.tokens], .opener false _ hid⟩
  · next ts =>
    cases h
    refine ⟨?_, .comment ?_ ?_⟩
    · change _ = _ :: _ :: _ :: (_ ++ _)
      rw [List.takeWhile_append_dropWhile]
    · intro hmem
      have hall := List.all_eq_true.mp List.all_takeWhile _ hmem
      simp at hall
    · intro t ht
      simpa using head?_dropWhile ht
  · next _ hP hsharp =>
    split at h
    · next hshort =>
      obtain ⟨⟨name, behind⟩, hname, heq⟩ := Option.map_eq_some_iff.mp h
      cases heq
      obtain ⟨hid, htail⟩ := groupName?_eq_some_iff.mp hname
      obtain ⟨us, rfl⟩ := List.head?_eq_some_iff.mp hshort.1
      obtain rfl : us = _ := htail
      exact ⟨by simp [Part.tokens], .opener true _ hid⟩
    · next hshort =>
      cases h
      refine ⟨?_, .flags ?_ ?_ ?_⟩
      · change _ = _ :: _ :: (_ ++ _)
        rw [List.takeWhile_append_dropWhile]
      · exact List.all_eq_true.mp List.all_takeWhile
      · exact fun t ht => head?_dropWhile ht
      · intro hflags
        have hts := List.takeWhile_append_dropWhile (p := isFlagToken) (l := ts)
        rw [hflags, List.nil_append] at hts
        rw [hts]
        rintro (hh | ⟨hh, hh'⟩ | hh)
        · obtain ⟨us, rfl⟩ := List.head?_eq_some_iff.mp hh
          exact hsharp us rfl
        · obtain ⟨us, rfl⟩ := List.head?_eq_some_iff.mp hh
          obtain ⟨vs, rfl⟩ := List.head?_eq_some_iff.mp hh'
          exact hP vs rfl
        · exact hshort hh

/-- A name does not start with the mark of a look-behind. -/
theorem not_behindMark_of_name {name : List Char} (h : Unicode.isIdentifier name = true)
    (rest : List Token) : ¬ (name.map Token.plain ++ rest).head?.any isBehindMark = true := by
  cases name with
  | nil => cases h
  | cons c name =>
    have hc := Unicode.isIdentifierContinue_of_mem h c (List.mem_cons_self ..)
    intro hmark
    change isBehindMark (.plain c) = true at hmark
    rw [isBehindMark, Bool.or_eq_true, decide_eq_true_eq, decide_eq_true_eq] at hmark
    rcases hmark with hmark | hmark
    all_goals
      rw [Token.plain.inj hmark] at hc
      exact absurd hc (by decide)

theorem questionPart?_of_opener {m : Scope} {short : Bool} {name : List Char}
    (h : Unicode.isIdentifier name = true) (rest : List Token) :
    questionPart? m ((if short then [] else [.plain 'P']) ++
        .plain '<' :: (name.map .plain ++ .plain '>' :: rest)) =
      some (.opener short name, m.inside m.verbose m.verbose, rest) := by
  have hname : groupName? (name.map .plain ++ .plain '>' :: rest) = some (name, rest) :=
    groupName?_eq_some_iff.mpr ⟨h, rfl⟩
  cases short with
  | false =>
    change (groupName? (name.map .plain ++ .plain '>' :: rest)).map _ = _
    rw [hname]
    rfl
  | true =>
    have hmark := not_behindMark_of_name h (.plain '>' :: rest)
    refine (if_pos ⟨rfl, hmark⟩).trans ?_
    change (groupName? (name.map .plain ++ .plain '>' :: rest)).map _ = _
    rw [hname]
    rfl

theorem questionPart?_of_flags {m : Scope} {flags rest : List Token}
    (hflags : ∀ t ∈ flags, isFlagToken t = true)
    (hend : ∀ t, rest.head? = some t → isFlagToken t = false)
    (hother : flags = [] → ¬ StartsName rest) :
    questionPart? m (flags ++ rest) =
      some (.head (.plain '?' :: flags),
        m.inside (verboseAfter m.verbose flags)
          (if rest.head? = some (.plain ')') then verboseAfter m.verbose flags else m.verbose),
        rest) := by
  obtain ⟨htake, hdrop⟩ := takeWhile_stretch hflags hend
  have hnot : ¬ StartsName (flags ++ rest) := by
    cases flags with
    | nil => exact hother rfl
    | cons t flags =>
      have ht := hflags t (List.mem_cons_self ..)
      rintro (hh | ⟨hh, -⟩ | ⟨hh, -⟩)
      all_goals
        rw [Option.some.inj hh] at ht
        exact absurd ht (by decide)
  unfold questionPart?
  split
  · next us heq => exact absurd (.inr (.inl (by rw [heq]; exact ⟨rfl, rfl⟩))) hnot
  · next us heq => exact absurd (.inl (by rw [heq]; rfl)) hnot
  · rw [if_neg fun hh => hnot (.inr (.inr hh)), htake, hdrop]

theorem firstPart?_question (m : Scope) (rest : List Token) :
    firstPart? m (.plain '(' :: .plain '?' :: rest) = questionPart? m rest := by
  change partAt? m (.plain '(') (.plain '?' :: rest) = _
  rw [partAt?, if_pos rfl]
  exact if_pos rfl

theorem firstPart?_of_cut {m m' : Scope} {part : Part} {rest : List Token}
    (h : Cut m part m' rest) : firstPart? m (part.tokens ++ rest) = some (part, m', rest) := by
  cases h with
  | token rest hopen hclose hset hremark =>
    change partAt? m _ rest = _
    rw [partAt?, if_neg hopen, if_neg hclose, if_neg hset, if_neg]
    intro h
    obtain ⟨ht, hv⟩ := h
    exact Bool.noConfusion (hv.symm.trans (hremark ht))
  | @close verbose outer rest h =>
    change partAt? m _ rest = _
    rw [partAt?, if_neg (by decide), if_pos rfl, h]
  | group h =>
    change partAt? m _ rest = _
    rw [partAt?, if_pos rfl, if_neg h]
  | @flags flags rest hflags hend hother =>
    exact (firstPart?_question m _).trans (questionPart?_of_flags hflags hend hother)
  | @opener short name rest h =>
    have htokens : (Part.opener short name).tokens ++ rest =
        .plain '(' :: .plain '?' :: ((if short then [] else [.plain 'P']) ++
          .plain '<' :: (name.map .plain ++ .plain '>' :: rest)) := by
      rw [opener_tokens]
      simp
    rw [htokens, firstPart?_question]
    exact questionPart?_of_opener h rest
  | @bracket body rest h =>
    change partAt? m (.plain '[') (body ++ rest) = _
    rw [partAt?, if_neg (by decide), if_neg (by decide), if_pos rfl,
      setBody?_eq_some_iff.mpr ⟨h, rfl⟩]
    rfl
  | @comment body rest h hend =>
    have hstretch := takeWhile_ne_stretch h hend
    refine (firstPart?_question m (.plain '#' :: (body ++ rest))).trans ?_
    change some (Part.comment _, _, _) = _
    rw [hstretch.1, hstretch.2]
  | @remark body rest hverbose h hend =>
    have hstretch := takeWhile_ne_stretch h hend
    change partAt? m (.plain '#') (body ++ rest) = _
    rw [partAt?, if_neg (by decide), if_neg (by decide), if_neg (by decide),
      if_pos ⟨rfl, hverbose⟩, hstretch.1, hstretch.2]

theorem cut_of_firstPart? {m m' : Scope} {ts rest : List Token} {part : Part}
    (h : firstPart? m ts = some (part, m', rest)) :
    ts = part.tokens ++ rest ∧ Cut m part m' rest := by
  cases ts with
  | nil => cases h
  | cons t ts =>
    change partAt? m t ts = _ at h
    unfold partAt? at h
    split at h
    · next ht =>
      rw [ht]
      split at h
      · next hquestion =>
        obtain ⟨us, rfl⟩ := List.head?_eq_some_iff.mp hquestion
        exact cut_of_questionPart? h
      · next hquestion =>
        cases h
        exact ⟨rfl, .group hquestion⟩
    · next hopen =>
      split at h
      · next ht =>
        rw [ht]
        split at h
        · cases h
        · next verbose outer houter =>
          cases h
          exact ⟨by rw [ht]; rfl, by rw [ht]; exact .close _ houter⟩
      · next hclose =>
        split at h
        · next ht =>
          obtain ⟨⟨body, behind⟩, hbody, heq⟩ := Option.map_eq_some_iff.mp h
          cases heq
          obtain ⟨hset, rfl⟩ := setBody?_eq_some_iff.mp hbody
          exact ⟨by rw [ht]; rfl, .bracket _ hset⟩
        · next hset =>
          split at h
          · next hremark =>
            cases h
            refine ⟨?_, .remark hremark.2 ?_ ?_⟩
            · change _ = _ :: (_ ++ _)
              rw [List.takeWhile_append_dropWhile, hremark.1]
            · intro hmem
              have hall := List.all_eq_true.mp List.all_takeWhile _ hmem
              simp at hall
            · intro u hu
              simpa using head?_dropWhile hu
          · next hremark =>
            cases h
            refine ⟨rfl, .token _ hopen hclose hset ?_⟩
            intro ht
            simpa [ht] using hremark

/-- The text in front of the last list is laid out as the parts, from one scope to another. -/
inductive Lays : Scope → List Token → List Part → Scope → List Token → Prop where
  | nil (m : Scope) (ts : List Token) : Lays m ts [] m ts
  | cons {m m' m'' : Scope} {ts rest behind : List Token} {part : Part} {parts : List Part}
    (hfirst : firstPart? m ts = some (part, m', rest)) (hrest : Lays m' rest parts m'' behind) :
    Lays m ts (part :: parts) m'' behind

/-! ## Layouts -/

namespace Lays

theorem append {m m' m'' : Scope} {ts us vs : List Token} {parts parts' : List Part}
    (h : Lays m ts parts m' us) (h' : Lays m' us parts' m'' vs) :
    Lays m ts (parts ++ parts') m'' vs := by
  induction h with
  | nil m ts => exact h'
  | cons hfirst hrest ih => exact .cons hfirst (ih h')

theorem single {m m' : Scope} {ts rest : List Token} {part : Part}
    (h : firstPart? m ts = some (part, m', rest)) : Lays m ts [part] m' rest :=
  .cons h (.nil ..)

/-- A text has one layout, and with it one scope at its end. -/
theorem unique {m m₁ m₂ : Scope} {ts : List Token} {parts₁ parts₂ : List Part}
    (h₁ : Lays m ts parts₁ m₁ []) (h₂ : Lays m ts parts₂ m₂ []) :
    parts₁ = parts₂ ∧ m₁ = m₂ := by
  induction parts₁ generalizing m ts parts₂ with
  | nil =>
    cases h₁
    cases h₂ with
    | nil => exact ⟨rfl, rfl⟩
    | cons hfirst => cases hfirst
  | cons part parts ih =>
    cases h₁ with
    | cons hfirst hrest =>
      cases h₂ with
      | nil => cases hfirst
      | cons hfirst' hrest' =>
        cases hfirst.symm.trans hfirst'
        obtain ⟨rfl, rfl⟩ := ih hrest hrest'
        exact ⟨rfl, rfl⟩

end Lays

/-- The parts of a text and the scope at its end, given a bound of the number of parts. -/
def layout? : Nat → Scope → List Token → Option (List Part × Scope)
  | _, m, [] => some ([], m)
  | 0, _, _ => none
  | bound + 1, m, ts => do
    let (part, m', rest) ← firstPart? m ts
    let (parts, m'') ← layout? bound m' rest
    return (part :: parts, m'')

theorem lays_of_layout? {bound : Nat} {m m' : Scope} {ts : List Token} {parts : List Part}
    (h : layout? bound m ts = some (parts, m')) : Lays m ts parts m' [] := by
  induction bound generalizing m ts parts with
  | zero =>
    cases ts with
    | nil =>
      cases h
      exact .nil ..
    | cons t ts => cases h
  | succ bound ih =>
    cases ts with
    | nil =>
      cases h
      exact .nil ..
    | cons t ts =>
      obtain ⟨⟨part, m₁, rest⟩, hfirst, h⟩ := Option.bind_eq_some_iff.mp h
      obtain ⟨⟨parts₁, m₂⟩, hrest, h⟩ := Option.bind_eq_some_iff.mp h
      cases h
      exact .cons hfirst (ih hrest)

end Linting.Regex
