import Mathlib.Data.List.Forall2
import Linting.Proofs.Pattern.Pieces

/-! The openers of a layout under respelling. Letters are put into openers, comments, remarks and
sets alone, so the parts stay parts; where no comment holds an opening bracket, the pieces keep step
with the parts and every opener gets its letter. -/

namespace Linting
set_option autoImplicit false

/-! ## Layouts with other parts -/

namespace Regex

/-- Parts of one kind, the second of them closed as its kind asks. -/
inductive Part.Varies : Part → Part → Prop where
  | same (part : Part) : Varies part part
  | opener (short short' : Bool) (name : List Char) :
    Varies (.opener short name) (.opener short' name)
  | bracket (body : List Token) {body' : List Token} (h : IsSetBody body') :
    Varies (.bracket body) (.bracket body')
  | comment (body : List Token) {body' : List Token} (h : .plain ')' ∉ body') :
    Varies (.comment body) (.comment body')
  | remark (body : List Token) {body' : List Token} (h : .plain '\n' ∉ body') :
    Varies (.remark body) (.remark body')

theorem tokensOf_cons (part : Part) (parts : List Part) :
    tokensOf (part :: parts) = part.tokens ++ tokensOf parts :=
  List.flatMap_cons

theorem Part.Varies.head? {part part' : Part} (h : part.Varies part') (rest rest' : List Token) :
    (part'.tokens ++ rest').head? = (part.tokens ++ rest).head? := by
  cases h with
  | same part =>
    obtain ⟨t, ts, ht⟩ := List.exists_cons_of_ne_nil part.tokens_ne_nil
    rw [ht]
    rfl
  | opener short short' name => cases short <;> cases short' <;> rfl
  | bracket body h => rfl
  | comment body h => rfl
  | remark body h => rfl

theorem head?_of_varies {parts parts' : List Part} (h : List.Forall₂ Part.Varies parts parts')
    (behind : List Token) :
    (tokensOf parts' ++ behind).head? = (tokensOf parts ++ behind).head? := by
  cases h with
  | nil => rfl
  | cons hpart hparts =>
    rw [tokensOf_cons, tokensOf_cons, List.append_assoc, List.append_assoc]
    exact hpart.head? _ _

/-- A name or a comment may start in the same places. -/
theorem startsName_of_varies {parts parts' : List Part}
    (h : List.Forall₂ Part.Varies parts parts') (behind : List Token) :
    StartsName (tokensOf parts' ++ behind) ↔ StartsName (tokensOf parts ++ behind) := by
  cases h with
  | nil => rfl
  | @cons part part' parts parts' hpart hparts =>
    rw [tokensOf_cons, tokensOf_cons, List.append_assoc, List.append_assoc]
    cases hpart with
    | same part =>
      cases part with
      | token t =>
        -- behind a single token the next part starts with the token it started with
        have hnext := head?_of_varies hparts behind
        simp [StartsName, Part.tokens, hnext]
      | opener short name => cases short <;> simp [StartsName, Part.tokens]
      | _ => simp [StartsName, Part.tokens]
    | opener short short' name =>
      cases short <;> cases short' <;> simp [StartsName, Part.tokens]
    | bracket body h => simp [StartsName, Part.tokens]
    | comment body h => simp [StartsName, Part.tokens]
    | remark body h => simp [StartsName, Part.tokens]

theorem Cut.varies {m m' : Scope} {part part' : Part} {rest rest' : List Token}
    (h : Cut m part m' rest) (hpart : part.Varies part') (hhead : rest'.head? = rest.head?)
    (hname : StartsName rest' ↔ StartsName rest) : Cut m part' m' rest' := by
  cases hpart with
  | same part =>
    cases h with
    | token rest hopen hclose hset hremark => exact .token rest' hopen hclose hset hremark
    | close rest h => exact .close rest' h
    | group h =>
      refine .group ?_
      rw [hhead]
      exact h
    | flags hflags hend hother =>
      rw [← hhead]
      refine .flags hflags ?_ fun hnil => ?_
      · rw [hhead]
        exact hend
      · rw [hname]
        exact hother hnil
    | opener short rest h => exact .opener short rest' h
    | bracket rest h => exact .bracket rest' h
    | comment h hend =>
      refine .comment h ?_
      rw [hhead]
      exact hend
    | remark hverbose h hend =>
      refine .remark hverbose h ?_
      rw [hhead]
      exact hend
  | opener short short' name =>
    cases h with
    | opener short rest h => exact .opener short' rest' h
  | bracket body hbody =>
    cases h with
    | bracket rest h => exact .bracket rest' hbody
  | comment body hbody =>
    cases h with
    | comment h hend =>
      refine .comment hbody ?_
      rw [hhead]
      exact hend
  | remark body hbody =>
    cases h with
    | remark hverbose h hend =>
      refine .remark hverbose hbody ?_
      rw [hhead]
      exact hend

theorem Lays.varies {m m' : Scope} {ts behind : List Token} {parts parts' : List Part}
    (h : Lays m ts parts m' behind) (hparts : List.Forall₂ Part.Varies parts parts') :
    Lays m (tokensOf parts' ++ behind) parts' m' behind := by
  induction h generalizing parts' with
  | nil m ts =>
    cases hparts
    exact .nil m ts
  | cons hfirst hrest ih =>
    cases hparts with
    | cons hpart hparts =>
      obtain ⟨-, hcut⟩ := cut_of_firstPart? hfirst
      rw [hrest.tokens] at hcut
      rw [tokensOf_cons, List.append_assoc]
      exact .cons_cut (hcut.varies hpart (head?_of_varies hparts _) (startsName_of_varies hparts _))
        (ih hparts)

end Regex

open Regex (Token Part Scope Lexed Cut Lays tokensOf)

namespace Pattern

/-! ## Where letters are put -/

theorem Grows.of_cons {t : Token} {ts us : List Token} (h : Grows (t :: ts) us) :
    (∃ us', us = t :: us' ∧ Grows ts us') ∨
      (t = .plain '(' ∧ NamesGroup ts ∧ ∃ after us', ts = .plain '?' :: .plain '<' :: after ∧
        us = .plain '(' :: .plain '?' :: .plain 'P' :: .plain '<' :: us' ∧ Grows after us') := by
  generalize hts : t :: ts = ts' at h
  cases h with
  | nil => cases hts
  | keep u h =>
    cases hts
    exact .inl ⟨_, rfl, h⟩
  | insert hmark h =>
    cases hts
    exact .inr ⟨rfl, ⟨_, rfl, hmark⟩, _, _, rfl, rfl, h⟩

/-- Where no opener can start, nothing is put in. -/
theorem Grows.of_keep {t : Token} {ts us : List Token} (h : Grows (t :: ts) us)
    (hkeep : t = .plain '(' → ¬ NamesGroup ts) : ∃ us', us = t :: us' ∧ Grows ts us' := by
  rcases h.of_cons with hkept | ⟨ht, hname, -⟩
  · exact hkept
  · exact absurd hname (hkeep ht)

theorem Grows.of_append_notMem {w ts us : List Token} (h : Grows (w ++ ts) us)
    (hw : .plain '(' ∉ w) : ∃ us', us = w ++ us' ∧ Grows ts us' := by
  induction w generalizing us with
  | nil => exact ⟨us, rfl, h⟩
  | cons t w ih =>
    obtain ⟨ht, hw⟩ := List.ne_and_not_mem_of_not_mem_cons hw
    obtain ⟨us', rfl, h'⟩ := h.of_keep fun heq => absurd heq.symm ht
    obtain ⟨us'', rfl, h''⟩ := ih h' hw
    exact ⟨us'', rfl, h''⟩

/-- Whether an opener without its letter stands in a text. -/
def HoldsOpener (ts : List Token) : Prop :=
  ∃ a b, ts = a ++ .plain '(' :: b ∧ NamesGroup b

theorem HoldsOpener.cons {ts : List Token} (t : Token) (h : HoldsOpener ts) :
    HoldsOpener (t :: ts) := by
  obtain ⟨a, b, rfl, hname⟩ := h
  exact ⟨t :: a, b, rfl, hname⟩

theorem Grows.eq_or_holdsOpener {ts us : List Token} (h : Grows ts us) :
    us = ts ∨ HoldsOpener ts := by
  induction h with
  | nil => exact .inl rfl
  | keep t h ih =>
    rcases ih with rfl | hholds
    · exact .inl rfl
    · exact .inr (hholds.cons t)
  | insert hmark h ih => exact .inr ⟨[], _, rfl, _, rfl, hmark⟩

/-- Whether every opener that begins in front of a place ends there. -/
def Apart (pre rest : List Token) : Prop :=
  ∀ a b, pre = a ++ .plain '(' :: b → NamesGroup (b ++ rest) →
    ∃ c, b = .plain '?' :: .plain '<' :: c

theorem Apart.of_cons {t : Token} {pre rest : List Token} (h : Apart (t :: pre) rest) :
    Apart pre rest := by
  intro a b hpre hname
  exact h (t :: a) b (by rw [hpre]; rfl) hname

theorem Apart.of_head {pre rest : List Token}
    (h : ∀ t, rest.head? = some t → t ≠ .plain '?' ∧ t ≠ .plain '<') : Apart pre rest := by
  rintro a b - ⟨after, hb, -⟩
  cases b with
  | nil =>
    obtain rfl : rest = _ := hb
    exact absurd rfl (h _ rfl).1
  | cons u b =>
    obtain ⟨rfl, htail⟩ := List.cons.inj hb
    cases b with
    | nil =>
      obtain rfl : rest = _ := htail
      exact absurd rfl (h _ rfl).2
    | cons v b =>
      obtain ⟨rfl, -⟩ := List.cons.inj htail
      exact ⟨b, rfl⟩

theorem Apart.of_last {pre rest : List Token} {t : Token} (hopen : t ≠ .plain '(')
    (hquestion : t ≠ .plain '?') : Apart (pre ++ [t]) rest := by
  intro a b hpre hfits
  obtain ⟨after, hb, -⟩ := hfits
  have hlast := congrArg List.getLast? hpre
  rw [List.getLast?_concat] at hlast
  cases b with
  | nil =>
    rw [List.getLast?_concat] at hlast
    exact absurd (Option.some.inj hlast) hopen
  | cons u b =>
    obtain ⟨rfl, htail⟩ := List.cons.inj hb
    cases b with
    | nil =>
      rw [List.append_cons, List.getLast?_concat] at hlast
      exact absurd (Option.some.inj hlast) hquestion
    | cons v b =>
      obtain ⟨rfl, -⟩ := List.cons.inj htail
      exact ⟨b, rfl⟩

theorem Grows.split_of_length (bound : Nat) {pre rest us : List Token}
    (hbound : pre.length ≤ bound) (h : Grows (pre ++ rest) us) (hapart : Apart pre rest) :
    ∃ pre' rest', us = pre' ++ rest' ∧ Grows pre pre' ∧ Grows rest rest' := by
  induction bound generalizing pre us with
  | zero =>
    obtain rfl := List.eq_nil_of_length_eq_zero (Nat.le_zero.mp hbound)
    exact ⟨[], us, rfl, .nil, h⟩
  | succ bound ih =>
    cases pre with
    | nil => exact ⟨[], us, rfl, .nil, h⟩
    | cons t pre =>
      have hlength : pre.length ≤ bound := Nat.le_of_succ_le_succ hbound
      rcases h.of_cons with ⟨us', rfl, h'⟩ | ⟨rfl, hname, after, us', hafter, rfl, h'⟩
      · obtain ⟨pre', rest', rfl, hpre, hrest⟩ := ih hlength h' hapart.of_cons
        exact ⟨t :: pre', rest', rfl, .keep t hpre, hrest⟩
      · obtain ⟨c, rfl⟩ := hapart [] pre rfl hname
        obtain ⟨after', hafter', hmark⟩ := hname
        obtain rfl : c ++ rest = after' := (List.cons.inj (List.cons.inj hafter').2).2
        obtain rfl : c ++ rest = after := (List.cons.inj (List.cons.inj hafter).2).2
        simp only [List.length_cons] at hlength
        obtain ⟨pre', rest', rfl, hpre, hrest⟩ :=
          ih (by omega) h' hapart.of_cons.of_cons.of_cons
        refine ⟨_, rest', rfl, .insert ?_ hpre, hrest⟩
        cases c with
        | nil => rfl
        | cons u c => exact hmark

theorem Grows.split {pre rest us : List Token} (h : Grows (pre ++ rest) us)
    (hapart : Apart pre rest) :
    ∃ pre' rest', us = pre' ++ rest' ∧ Grows pre pre' ∧ Grows rest rest' :=
  h.split_of_length pre.length (Nat.le_refl _) hapart

/-! ## Parts with letters put in -/

/-- A part, and what may come of it when letters are put in. -/
inductive Grown : Part → Part → Prop where
  | same (part : Part) : Grown part part
  | opener (name : List Char) : Grown (.opener true name) (.opener false name)
  | bracket {body body' : List Token} (h : HoldsOpener body) (hgrows : Grows body body')
    (hbody : Regex.IsSetBody body') : Grown (.bracket body) (.bracket body')
  | comment (body : List Token) {body' : List Token} (h : .plain ')' ∉ body') :
    Grown (.comment body) (.comment body')
  | remark (body : List Token) {body' : List Token} (h : .plain '\n' ∉ body') :
    Grown (.remark body) (.remark body')

theorem Grown.varies {part part' : Part} (h : Grown part part') : part.Varies part' := by
  cases h with
  | same part => exact .same part
  | opener name => exact .opener true false name
  | bracket h hgrows hbody => exact .bracket _ hbody
  | comment body h => exact .comment body h
  | remark body h => exact .remark body h

theorem Grows.notMem {ts us : List Token} (h : Grows ts us) {t : Token} (ht : t ∉ ts)
    (hletter : t ≠ .plain 'P') : t ∉ us :=
  fun hmem => (h.mem hmem).elim ht hletter

theorem Grows.lexed {ts us : List Token} (h : Grows ts us) (hlexed : Lexed ts) : Lexed us :=
  h.notMem hlexed (by simp)

/-- A set stays a set: its first member and its end are kept. -/
theorem Grows.isSetBody {body body' : List Token} (h : Grows body body')
    (hbody : Regex.IsSetBody body) : Regex.IsSetBody body' := by
  obtain ⟨caret, first, inner, rfl, hinner, hcaret⟩ := hbody
  have hrest : ∀ {us}, Grows (first :: (inner ++ [.plain ']'])) us →
      ∃ inner', us = first :: (inner' ++ [.plain ']']) ∧ .plain ']' ∉ inner' := by
    intro us hus
    have hapart : Apart (first :: inner) [.plain ']'] := .of_head (by simp)
    have hus : Grows (first :: inner ++ [.plain ']']) us := hus
    obtain ⟨pre', rest', rfl, hpre, hclose⟩ := hus.split hapart
    obtain ⟨us', rfl, hnil⟩ := hclose.of_keep (by simp)
    cases hnil
    rcases hpre.of_cons with ⟨inner', rfl, hinner'⟩ | ⟨rfl, -, after, us', rfl, rfl, hafter⟩
    · exact ⟨inner', rfl, hinner'.notMem hinner (by simp)⟩
    · refine ⟨_, rfl, ?_⟩
      have hnot := hafter.notMem (t := .plain ']') (by simp_all) (by simp)
      simp [hnot]
  rcases hcaret with rfl | ⟨rfl, hfirst⟩
  · obtain ⟨us, rfl, hus⟩ := Grows.of_keep (t := .plain '^') h (by simp)
    obtain ⟨inner', rfl, hinner'⟩ := hrest hus
    exact ⟨[.plain '^'], first, inner', rfl, hinner', .inl rfl⟩
  · obtain ⟨inner', rfl, hinner'⟩ := hrest h
    exact ⟨[], first, inner', rfl, hinner', .inr ⟨rfl, hfirst⟩⟩

theorem isFlagToken_ne {t : Token} (h : Regex.isFlagToken t = true) :
    t ≠ .plain '(' ∧ t ≠ .plain '[' ∧ t ≠ .plain '<' := by
  refine ⟨?_, ?_, ?_⟩
  all_goals
    rintro rfl
    cases h

theorem apart_of_isSetBody {body : List Token} (h : Regex.IsSetBody body) (rest : List Token) :
    Apart body rest := by
  obtain ⟨caret, first, inner, rfl, -, -⟩ := h
  have hlast : caret ++ first :: (inner ++ [.plain ']']) =
      caret ++ first :: inner ++ [.plain ']'] := by simp
  rw [hlast]
  exact .of_last (by simp) (by simp)

/-- Flags are not followed by a name. -/
theorem not_namesGroup_flags {flags rest : List Token}
    (hflags : ∀ t ∈ flags, Regex.isFlagToken t = true)
    (hother : flags = [] → ¬ Regex.StartsName rest) :
    ¬ NamesGroup (.plain '?' :: (flags ++ rest)) := by
  intro h
  obtain ⟨after, heq, hmark⟩ := h
  have htail := (List.cons.inj heq).2
  cases flags with
  | nil =>
    obtain rfl : rest = _ := htail
    exact hother rfl (.inr (.inr ⟨rfl, by simp [hmark]⟩))
  | cons t flags =>
    have ht := isFlagToken_ne (hflags t (List.mem_cons_self ..))
    exact ht.2.2 (List.cons.inj htail).1

/-- Flags open neither a group nor a set. -/
theorem flags_notMem {flags : List Token} (hflags : ∀ t ∈ flags, Regex.isFlagToken t = true) :
    ∀ t, t = .plain '(' ∨ t = .plain '[' → t ∉ Token.plain '?' :: flags := by
  intro t ht hmem
  rcases List.mem_cons.mp hmem with rfl | hmem
  · simp at ht
  · have hne := isFlagToken_ne (hflags t hmem)
    exact ht.elim hne.1 hne.2.1

theorem name_notMem {name : List Char} (h : Unicode.isIdentifier name = true) {t : Token}
    (ht : ¬ t.Quiet) : t ∉ name.map Token.plain := by
  intro hmem
  obtain ⟨c, hc, rfl⟩ := List.mem_map.mp hmem
  exact ht (Unicode.isIdentifier_quiet h c hc).1

/-- A group name opens neither a group nor a set, up to its bracket. -/
theorem nameEnd_notMem {name : List Char} (hid : Unicode.isIdentifier name = true) :
    ∀ t, t = .plain '(' ∨ t = .plain '[' → t ∉ name.map Token.plain ++ [.plain '>'] := by
  intro t ht hmem
  rcases List.mem_append.mp hmem with hmem | hmem
  · refine name_notMem hid ?_ hmem
    rcases ht with rfl | rfl
    · exact fun hquiet => hquiet.2.2.1 rfl
    · exact fun hquiet => hquiet.1 rfl
  · rcases ht with rfl | rfl <;> simp at hmem

/-- An opener stays as it is, or gets its letter. -/
theorem Grows.openerPart {short : Bool} {name : List Char} {rest us : List Token}
    (hid : Unicode.isIdentifier name = true)
    (h : Grows ((Part.opener short name).tokens ++ rest) us) :
    ∃ part' us', us = part'.tokens ++ us' ∧ Grown (.opener short name) part' ∧
      Grows rest us' := by
  have hname := nameEnd_notMem hid _ (.inl rfl)
  cases short with
  | false =>
    have h : Grows (.plain '(' :: (.plain '?' :: .plain 'P' :: .plain '<' ::
        (name.map Token.plain ++ [.plain '>']) ++ rest)) us := by
      simpa [Part.tokens] using h
    obtain ⟨us₁, rfl, h₁⟩ := h.of_keep (by
      rintro - ⟨after, heq, -⟩
      simp at heq)
    obtain ⟨us', rfl, h'⟩ := h₁.of_append_notMem (by simpa using hname)
    exact ⟨.opener false name, us', by simp [Part.tokens], .same _, h'⟩
  | true =>
    have h : Grows (.plain '(' :: (.plain '?' :: .plain '<' ::
        (name.map Token.plain ++ [.plain '>']) ++ rest)) us := by
      simpa [Part.tokens] using h
    rcases h.of_cons with ⟨us₁, rfl, h₁⟩ | ⟨-, -, after, us₁, hafter, rfl, h₁⟩
    · obtain ⟨us', rfl, h'⟩ := h₁.of_append_notMem (by simpa using hname)
      exact ⟨.opener true name, us', by simp [Part.tokens], .same _, h'⟩
    · obtain rfl : name.map Token.plain ++ [.plain '>'] ++ rest = after := by
        simpa using hafter
      obtain ⟨us', rfl, h'⟩ := h₁.of_append_notMem hname
      exact ⟨.opener false name, us', by simp [Part.tokens], .opener name, h'⟩

theorem Grows.cut {m m' : Scope} {part : Part} {rest us : List Token} (hcut : Cut m part m' rest)
    (h : Grows (part.tokens ++ rest) us) :
    ∃ part' us', us = part'.tokens ++ us' ∧ Grown part part' ∧ Grows rest us' := by
  cases hcut with
  | @token t rest hopen hclose hset hremark =>
    obtain ⟨us', rfl, h'⟩ := Grows.of_keep (t := t) h fun ht => absurd ht hopen
    exact ⟨.token t, us', rfl, .same _, h'⟩
  | close rest houter =>
    obtain ⟨us', rfl, h'⟩ := Grows.of_keep (t := .plain ')') h (by simp)
    exact ⟨.token (.plain ')'), us', rfl, .same _, h'⟩
  | group hhead =>
    obtain ⟨us', rfl, h'⟩ := Grows.of_keep (t := .plain '(') h (by
      rintro - ⟨after, rfl, -⟩
      exact hhead rfl)
    exact ⟨.head [], us', rfl, .same _, h'⟩
  | @flags flags rest hflags hend hother =>
    obtain ⟨us₁, rfl, h₁⟩ := Grows.of_keep (t := .plain '(') h
      fun _ => not_namesGroup_flags hflags hother
    obtain ⟨us', rfl, h'⟩ := h₁.of_append_notMem (flags_notMem hflags _ (.inl rfl))
    exact ⟨.head (.plain '?' :: flags), us', rfl, .same _, h'⟩
  | @opener short name rest hid => exact Grows.openerPart hid h
  | @bracket body rest hbody =>
    obtain ⟨us₁, rfl, h₁⟩ := Grows.of_keep (t := .plain '[') h (by simp)
    obtain ⟨body', us', rfl, hgrows, h'⟩ := h₁.split (apart_of_isSetBody hbody rest)
    refine ⟨.bracket body', us', rfl, ?_, h'⟩
    rcases hgrows.eq_or_holdsOpener with rfl | hholds
    · exact .same _
    · exact .bracket hholds hgrows (hgrows.isSetBody hbody)
  | @comment body rest hbody hend =>
    obtain ⟨us₁, rfl, h₁⟩ := Grows.of_keep (t := .plain '(') h (by
      rintro - ⟨after, heq, -⟩
      simp at heq)
    obtain ⟨us₂, rfl, h₂⟩ :=
      Grows.of_append_notMem (w := [.plain '?', .plain '#']) h₁ (by simp)
    obtain ⟨body', us', rfl, hgrows, h'⟩ := h₂.split (.of_head fun t ht => by simp [hend t ht])
    exact ⟨.comment body', us', rfl, .comment body (hgrows.notMem hbody (by simp)), h'⟩
  | @remark body rest hverbose hbody hend =>
    obtain ⟨us₁, rfl, h₁⟩ := Grows.of_keep (t := .plain '#') h (by simp)
    obtain ⟨body', us', rfl, hgrows, h'⟩ := h₁.split (.of_head fun t ht => by simp [hend t ht])
    exact ⟨.remark body', us', rfl, .remark body (hgrows.notMem hbody (by simp)), h'⟩

theorem Grows.lays {m m' : Scope} {ts us behind : List Token} {parts : List Part}
    (hlays : Lays m ts parts m' behind) (hend : behind = []) (h : Grows ts us) :
    ∃ parts', us = tokensOf parts' ∧ List.Forall₂ Grown parts parts' := by
  induction hlays generalizing us with
  | nil m ts =>
    subst hend
    cases h
    exact ⟨[], rfl, .nil⟩
  | cons hfirst hrest ih =>
    obtain ⟨rfl, hcut⟩ := Regex.cut_of_firstPart? hfirst
    obtain ⟨part', us', rfl, hgrown, h'⟩ := Grows.cut hcut h
    obtain ⟨parts', rfl, hparts⟩ := ih hend h'
    exact ⟨part' :: parts', (Regex.tokensOf_cons ..).symm, .cons hgrown hparts⟩

/-! ## Pieces in step with parts -/

/-- A part, and what comes of it when its opener has got its letter. -/
inductive Restored : Part → Part → Prop where
  | same {part : Part} (h : ∀ name, part ≠ .opener true name) : Restored part part
  | opener (name : List Char) : Restored (.opener true name) (.opener false name)
  | comment (body : List Token) {body' : List Token} (hlexed : Lexed body')
    (h : .plain ')' ∉ body') : Restored (.comment body) (.comment body')
  | remark (body : List Token) {body' : List Token} (hlexed : Lexed body')
    (h : .plain '\n' ∉ body') : Restored (.remark body) (.remark body')

/-- Whether what a comment or a remark says starts no set. -/
def Hushed : Part → Prop
  | .comment body => .plain '[' ∉ body
  | .remark body => .plain '[' ∉ body
  | _ => True

theorem respellChars_append_notMem {w rest : List Token} (hlexed : Lexed (w ++ rest))
    (hset : .plain '[' ∉ w) (hopen : .plain '(' ∉ w) :
    respellChars (Token.chars (w ++ rest)) =
      Token.chars w ++ respellChars (Token.chars rest) := by
  induction w with
  | nil => rfl
  | cons t w ih =>
    obtain ⟨ht, hset⟩ := List.ne_and_not_mem_of_not_mem_cons hset
    obtain ⟨ht', hopen⟩ := List.ne_and_not_mem_of_not_mem_cons hopen
    have hlexed : Lexed (t :: (w ++ rest)) := hlexed
    have htoken := respellChars_token hlexed ht.symm fun heq => absurd heq.symm ht'
    refine htoken.trans ?_
    rw [ih hlexed.tail hset hopen, ← List.append_assoc]
    rfl

/-- A stretch that starts no set, in front of a token that goes on no opener. -/
theorem stretch_of_length (bound : Nat) {w rest : List Token} (hbound : w.length ≤ bound)
    (hlexed : Lexed (w ++ rest)) (hset : .plain '[' ∉ w)
    (hrest : ∀ t, rest.head? = some t → t ≠ .plain '?' ∧ t ≠ .plain '<') :
    ∃ w', Grows w w' ∧ respellChars (Token.chars (w ++ rest)) =
      Token.chars w' ++ respellChars (Token.chars rest) := by
  induction bound generalizing w with
  | zero =>
    obtain rfl := List.eq_nil_of_length_eq_zero (Nat.le_zero.mp hbound)
    exact ⟨[], .nil, rfl⟩
  | succ bound ih =>
    cases w with
    | nil => exact ⟨[], .nil, rfl⟩
    | cons t w =>
      have hlength : w.length ≤ bound := Nat.le_of_succ_le_succ hbound
      have hlexed : Lexed (t :: (w ++ rest)) := hlexed
      obtain ⟨ht, hset'⟩ := List.ne_and_not_mem_of_not_mem_cons hset
      by_cases hopener : t = .plain '(' ∧ NamesGroup (w ++ rest)
      · obtain ⟨rfl, hname⟩ := hopener
        obtain ⟨c, rfl⟩ := Apart.of_head hrest [] w rfl hname
        obtain ⟨after, hafter, hmark⟩ := hname
        obtain rfl : c ++ rest = after := (List.cons.inj (List.cons.inj hafter).2).2
        have hlexed' : Lexed (c ++ rest) := hlexed.tail.tail.tail
        simp only [List.length_cons] at hlength
        obtain ⟨w', hgrows, htext⟩ := ih (by omega) hlexed'
          (List.not_mem_of_not_mem_cons (List.not_mem_of_not_mem_cons hset'))
        refine ⟨_, .insert ?_ hgrows, ?_⟩
        · cases c with
          | nil => rfl
          | cons u c => exact hmark
        · have hname := respellChars_name hmark
          rw [htext] at hname
          exact hname
      · obtain ⟨w', hgrows, htext⟩ := ih hlength hlexed.tail hset'
        refine ⟨t :: w', .keep t hgrows, ?_⟩
        have htoken := respellChars_token hlexed ht.symm fun heq hname => hopener ⟨heq, hname⟩
        refine htoken.trans ?_
        rw [htext, ← List.append_assoc]
        rfl

theorem chars_append (ts us : List Token) :
    Token.chars (ts ++ us) = Token.chars ts ++ Token.chars us :=
  List.flatMap_append

/-- An opener with or without its letter has it afterwards. -/
theorem respellChars_openerPart {short : Bool} {name : List Char} {rest : List Token}
    (hid : Unicode.isIdentifier name = true)
    (hlexed : Lexed ((Part.opener short name).tokens ++ rest)) :
    respellChars (Token.chars ((Part.opener short name).tokens ++ rest)) =
      Token.chars (Part.opener false name).tokens ++ respellChars (Token.chars rest) := by
  have hname := nameEnd_notMem hid
  have hrest : Lexed (name.map Token.plain ++ [.plain '>'] ++ rest) := by
    cases short <;> simpa [Lexed, Part.tokens] using hlexed
  have hkept := respellChars_append_notMem hrest (hname _ (.inr rfl)) (hname _ (.inl rfl))
  cases short with
  | false =>
    have hopen : Lexed (.plain '(' :: ([.plain '?', .plain 'P', .plain '<'] ++
        (name.map Token.plain ++ [.plain '>'] ++ rest))) := by
      simpa [Lexed] using hrest
    have htoken := respellChars_token hopen (by simp) (by
      rintro - ⟨after, heq, -⟩
      simp at heq)
    rw [respellChars_append_notMem hopen.tail (by simp) (by simp), hkept] at htoken
    simpa [Part.tokens, Token.chars, Token.text] using htoken
  | true =>
    have hmark : (name.map Token.plain ++ [Token.plain '>'] ++ rest).head?.any
        Regex.isBehindMark = false := by
      rw [List.append_assoc]
      exact Bool.eq_false_iff.mpr (Regex.not_behindMark_of_name hid _)
    have htoken := respellChars_name hmark
    rw [hkept] at htoken
    simpa [Part.tokens, Token.chars, Token.text] using htoken

/-- The pieces of a part whose comment starts no set end where the part does. -/
theorem respellChars_part {m m' : Scope} {part : Part} {rest : List Token}
    (hcut : Cut m part m' rest) (hlexed : Lexed (part.tokens ++ rest)) (hhushed : Hushed part) :
    ∃ part', Restored part part' ∧ respellChars (Token.chars (part.tokens ++ rest)) =
      Token.chars part'.tokens ++ respellChars (Token.chars rest) := by
  cases hcut with
  | @token t rest hopen hclose hset hremark =>
    refine ⟨.token t, .same (by simp), ?_⟩
    rw [respellChars_append_notMem hlexed] <;> simp [Part.tokens, Ne.symm hset, Ne.symm hopen]
  | close rest houter =>
    refine ⟨.token (.plain ')'), .same (by simp), ?_⟩
    rw [respellChars_append_notMem hlexed] <;> simp [Part.tokens]
  | group hhead =>
    refine ⟨.head [], .same (by simp), ?_⟩
    refine respellChars_token (t := .plain '(') hlexed (by simp) ?_
    rintro - ⟨after, rfl, -⟩
    exact hhead rfl
  | @flags flags rest hflags hend hother =>
    refine ⟨.head (.plain '?' :: flags), .same (by simp), ?_⟩
    have htoken := respellChars_token (t := .plain '(') hlexed (by simp)
      fun _ => not_namesGroup_flags hflags hother
    refine htoken.trans ?_
    have hrest : Lexed (.plain '?' :: flags ++ rest) := hlexed.tail
    have hnot := flags_notMem hflags
    have hkept := respellChars_append_notMem hrest (hnot _ (.inr rfl)) (hnot _ (.inl rfl))
    exact congrArg (List.cons '(') hkept
  | @opener short name rest hid =>
    refine ⟨.opener false name, ?_, respellChars_openerPart hid hlexed⟩
    cases short with
    | false => exact .same (by simp)
    | true => exact .opener name
  | @bracket body rest hbody =>
    refine ⟨.bracket body, .same (by simp), ?_⟩
    have hrest : Lexed (body ++ rest) := hlexed.tail
    exact respellChars_set (chars_append body rest) (classBody?_set hbody rest hrest)
  | @comment body rest hbody hend =>
    have hrest : Lexed (body ++ rest) := hlexed.tail.tail.tail
    obtain ⟨body', hgrows, htext⟩ := stretch_of_length body.length (Nat.le_refl _) hrest hhushed
      fun t ht => by simp [hend t ht]
    refine ⟨.comment body', .comment body (hgrows.lexed hrest.of_append.1)
      (hgrows.notMem hbody (by simp)), ?_⟩
    have hopen := respellChars_token (t := .plain '(') hlexed (by simp) (by
      rintro - ⟨after, heq, -⟩
      simp at heq)
    have hkept : respellChars (Token.chars ([.plain '?', .plain '#'] ++ (body ++ rest))) =
        '?' :: '#' :: respellChars (Token.chars (body ++ rest)) :=
      respellChars_append_notMem hlexed.tail (by simp) (by simp)
    rw [htext] at hkept
    exact hopen.trans (congrArg (List.cons '(') hkept)
  | @remark body rest hverbose hbody hend =>
    have hrest : Lexed (body ++ rest) := hlexed.tail
    obtain ⟨body', hgrows, htext⟩ := stretch_of_length body.length (Nat.le_refl _) hrest hhushed
      fun t ht => by simp [hend t ht]
    refine ⟨.remark body', .remark body (hgrows.lexed hrest.of_append.1)
      (hgrows.notMem hbody (by simp)), ?_⟩
    have hopen := respellChars_token (t := .plain '#') hlexed (by simp) (by simp)
    exact hopen.trans (congrArg (List.cons '#') htext)

theorem respellChars_lays {m m' : Scope} {ts behind : List Token} {parts : List Part}
    (hlays : Lays m ts parts m' behind) (hend : behind = []) (hlexed : Lexed ts)
    (hhushed : ∀ part ∈ parts, Hushed part) :
    ∃ parts', List.Forall₂ Restored parts parts' ∧
      respellChars (Token.chars ts) = Token.chars (tokensOf parts') := by
  induction hlays with
  | nil m ts =>
    subst hend
    exact ⟨[], .nil, respellChars_nil⟩
  | cons hfirst hrest ih =>
    obtain ⟨rfl, hcut⟩ := Regex.cut_of_firstPart? hfirst
    obtain ⟨part', hpart, htext⟩ :=
      respellChars_part hcut hlexed (hhushed _ (List.mem_cons_self ..))
    obtain ⟨parts', hparts, hrest⟩ :=
      ih hend hlexed.of_append.2 fun p hp => hhushed p (List.mem_cons_of_mem _ hp)
    refine ⟨part' :: parts', .cons hpart hparts, ?_⟩
    rw [htext, hrest, Regex.tokensOf_cons, chars_append]

end Pattern

end Linting
