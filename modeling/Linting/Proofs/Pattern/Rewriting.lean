import Linting.Proofs.Fallible
import Linting.Proofs.Pattern.Letters
import Linting.Proofs.Pattern.Walk

/-! Respelling as a substitution. One expression matches what is copied whole, escape pairs and
closed classes, and the openers to be rewritten. The matcher tries it with and without the optional
characters of a class; what it finds in the end are the pieces that a text is cut into. -/

namespace Linting
set_option autoImplicit false

/-! ## Single steps of the matcher -/

namespace Regex

/-- A cursor moved past a text. -/
def Cursor.past (s : Cursor) (w : List Char) : Cursor := s.moveTo (s.position + w.length)

variable {text : Array Char} {flags : Flags} {s : Cursor} {k : Continuation} {c : Char}
  {rest : List Char}

theorem map_past (w : List Char) (found : Option (List Char)) :
    found.map (s.past w).past = (found.map (w ++ ·)).map s.past := by
  rw [Option.map_map]
  congr 1
  funext u
  simp [Cursor.past, Cursor.moveTo, Nat.add_assoc]

theorem drop_past {w : List Char} (h : text.toList.drop s.position = w ++ rest) :
    text.toList.drop (s.past w).position = rest := by
  change text.toList.drop (s.position + w.length) = rest
  rw [← List.drop_drop, h, List.drop_left]

theorem charAt?_eq (text : Array Char) (position : Nat) :
    charAt? text position = (text.toList.drop position).head?.map Char.toNat := by
  rw [charAt?, List.head?_drop, Array.getElem?_toList]

theorem passOne_cons (test : Nat → Bool) (h : text.toList.drop s.position = c :: rest) :
    passOne text test s k = if test c.toNat then k (s.past [c]) else none := by
  rw [passOne, charAt?_eq, h]
  rfl

theorem passOne_nil (test : Nat → Bool) (h : text.toList.drop s.position = []) :
    passOne text test s k = none := by
  rw [passOne, charAt?_eq, h]
  rfl

/-- An optional node is tried first and left out second. -/
theorem run_optional (node : Node) :
    (Node.loop .greedy 0 (some 1) node).run text flags s k =
      (node.run text flags s k).or (k s) := by
  have hstop (bound : Nat) (last : Option Nat) (t : Cursor) :
      greedyLoop (fun t next => node.run text flags t next) 0 (some 1) (bound + 1) 1 last t k =
        k t := by
    simp [greedyLoop, mayRepeat]
  have hbound : 0 + (text.size - s.position) + 2 = text.size - s.position + 1 + 1 := by omega
  rw [Node.run]
  simp only [hbound]
  rw [greedyLoop]
  simp only [hstop]
  cases node.run text flags s k <;> rfl

/-- A further round of a repetition is tried first, and to end it second. -/
theorem greedyLoop_round {body : Cursor → Continuation → Option Cursor} {bound count : Nat}
    {last : Option Nat} (hlast : last ≠ some s.position) (hbound : 0 < bound) :
    greedyLoop body 0 none bound count last s k =
      (body s fun t => greedyLoop body 0 none (bound - 1) (count + 1) (some s.position) t k).or
        (k s) := by
  obtain ⟨bound, rfl⟩ : ∃ b, bound = b + 1 := ⟨bound - 1, by omega⟩
  rw [greedyLoop, Nat.add_sub_cancel]
  simp only [Nat.not_lt_zero, if_false, mayRepeat, Option.all_none, Bool.true_and,
    decide_eq_true hlast, if_true]
  cases body s fun t => greedyLoop body 0 none bound (count + 1) (some s.position) t k <;> rfl

end Regex

namespace Pattern

open Regex (Node Cursor Continuation)

/-! ## The expression -/

/-- What the pieces that are more than a character are matched by. -/
def tokenSource : String := r"\\.|\[\^?\]?(?:\\.|[^\]\\])*\]|\(\?<(?![=!])"

def modes : Regex.Flags := { dotAll := true, unicode := true }

def oneOf (negated : Bool) (cs : List Char) : Node :=
  .set ⟨negated, cs.map fun c => .single c.toNat⟩

def escapePair : Node := .seq (.char '\\'.toNat) .any

/-- One thing that a class holds. -/
def member : Node := .choice escapePair (oneOf true [']', '\\'])

def members : Node := .seq (.loop .greedy 0 none member) (.char ']'.toNat)

def behindCaret : Node := .seq (.loop .greedy 0 (some 1) (.char ']'.toNat)) members

def behindBracket : Node := .seq (.loop .greedy 0 (some 1) (.char '^'.toNat)) behindCaret

def notLookbehind : Node := .ahead true (oneOf false ['=', '!'])

def openerNode : Node :=
  .seq (.char '('.toNat) (.seq (.char '?'.toNat) (.seq (.char '<'.toNat) notLookbehind))

def tokenNode : Node :=
  .choice escapePair (.choice (.seq (.char '['.toNat) behindBracket) openerNode)

def tokenPattern : Pattern := ⟨tokenSource, "sug", ⟨tokenNode, modes, 0, []⟩, false⟩

theorem compile_tokenSource : compile tokenSource "su" = .ok tokenPattern :=
  ok_of_toOption (by decide +kernel)

/-! ## Its runs -/

section

variable {text : Array Char} {s : Cursor} {k : Continuation} {c : Char} {rest : List Char}

theorem run_char (d : Char) (h : text.toList.drop s.position = c :: rest) :
    (Node.char d.toNat).run text modes s k = if c = d then k (s.past [c]) else none := by
  rw [Node.run, Regex.passOne_cons _ h]
  simp [Regex.charHolds, modes, Char.toNat_inj]

theorem run_char_of_head? {d : Char} (hfirst : rest.head? ≠ some d)
    (h : text.toList.drop s.position = rest) : (Node.char d.toNat).run text modes s k = none := by
  cases rest with
  | nil => rw [Node.run, Regex.passOne_nil _ h]
  | cons c rest => rw [run_char _ h, if_neg fun hc => hfirst (by rw [hc]; rfl)]

theorem run_oneOf (negated : Bool) (cs : List Char)
    (h : text.toList.drop s.position = c :: rest) :
    (oneOf negated cs).run text modes s k =
      if decide (c ∈ cs) != negated then k (s.past [c]) else none := by
  have hany : (cs.map fun d => Regex.SetItem.single d.toNat).any
      (·.holds modes.unicode c.toNat) = decide (c ∈ cs) := by
    rw [List.any_map, Bool.eq_iff_iff, List.any_eq_true, decide_eq_true_iff]
    simp [Regex.SetItem.holds, Char.toNat_inj]
  have hholds : Regex.CharSet.holds modes ⟨negated, cs.map fun d => .single d.toNat⟩ c.toNat =
      (decide (c ∈ cs) != negated) := by
    rw [← hany]
    rfl
  rw [oneOf, Node.run, Regex.passOne_cons _ h, hholds]

theorem run_oneOf_nil (negated : Bool) (cs : List Char) (h : text.toList.drop s.position = []) :
    (oneOf negated cs).run text modes s k = none := by
  rw [oneOf, Node.run, Regex.passOne_nil _ h]

theorem run_escapePair (h : text.toList.drop s.position = '\\' :: c :: rest) :
    escapePair.run text modes s k = k (s.past ['\\', c]) := by
  have hnext : text.toList.drop (s.past ['\\']).position = c :: rest := Regex.drop_past h
  rw [escapePair, Node.run, run_char _ h, if_pos rfl, Node.run, Regex.passOne_cons _ hnext]
  rfl

theorem run_escapePair_lone (h : text.toList.drop s.position = ['\\']) :
    escapePair.run text modes s k = none := by
  have hnext : text.toList.drop (s.past ['\\']).position = [] := Regex.drop_past h
  rw [escapePair, Node.run, run_char _ h, if_pos rfl, Node.run, Regex.passOne_nil _ hnext]

theorem run_escapePair_of_head? (hescape : rest.head? ≠ some '\\')
    (h : text.toList.drop s.position = rest) : escapePair.run text modes s k = none := by
  rw [escapePair, Node.run, run_char_of_head? hescape h]

theorem run_member_nil (h : text.toList.drop s.position = []) :
    member.run text modes s k = none := by
  rw [member, Node.run, run_oneOf_nil _ _ h, run_escapePair_of_head? (by simp) h]

theorem run_member_cons (h : text.toList.drop s.position = c :: rest) :
    member.run text modes s k =
      (escapePair.run text modes s k).or
        (if c ∈ [']', '\\'] then none else k (s.past [c])) := by
  have hset : (oneOf true [']', '\\']).run text modes s k =
      if c ∈ [']', '\\'] then none else k (s.past [c]) := by
    rw [run_oneOf _ _ h]
    by_cases hc : c ∈ [']', '\\'] <;> simp [hc]
  rw [member, Node.run, hset]
  cases escapePair.run text modes s k <;> rfl

/-- The members of a class and the bracket behind them end at the first bracket that closes. -/
theorem greedyLoop_member {bound count : Nat} {last : Option Nat} (hlast : last ≠ some s.position)
    (h : text.toList.drop s.position = rest) (hbound : rest.length < bound) :
    Regex.greedyLoop (fun t next => member.run text modes t next) 0 none bound count last s
      (fun t => (Node.char ']'.toNat).run text modes t some) =
      (throughBracket? rest).map s.past := by
  have hmoved {s : Cursor} (c : Char) (w : List Char) :
      some s.position ≠ some (s.past (c :: w)).position := by
    simp [Cursor.past, Cursor.moveTo]
  fun_induction throughBracket? rest generalizing s bound count last with
  | case1 =>
    rw [Regex.greedyLoop_round hlast (by omega), run_member_nil h,
      run_char_of_head? (by simp) h]
    rfl
  | case2 rest =>
    rw [Regex.greedyLoop_round hlast (by omega), run_member_cons h,
      run_escapePair_of_head? (by simp) h, run_char _ h]
    rfl
  | case3 =>
    rw [Regex.greedyLoop_round hlast (by omega), run_member_cons h, run_escapePair_lone h,
      run_char _ h]
    rfl
  | case4 c rest ih =>
    simp only [List.length_cons] at hbound
    have hrest : text.toList.drop (s.past ['\\', c]).position = rest := Regex.drop_past h
    rw [Regex.greedyLoop_round hlast (by omega), run_member_cons h, run_escapePair h,
      ih (hmoved _ _) hrest (by omega), run_char _ h, Regex.map_past]
    cases throughBracket? rest <;> rfl
  | case5 c rest hclose hlone hpair ih =>
    simp only [List.length_cons] at hbound
    have hescape : c ≠ '\\' := by
      rintro rfl
      cases rest with
      | nil => exact hlone rfl rfl
      | cons d rest => exact hpair d rest rfl rfl
    have hmember : c ∉ [']', '\\'] := by simpa using ⟨hclose, hescape⟩
    have hrest : text.toList.drop (s.past [c]).position = rest := Regex.drop_past h
    rw [Regex.greedyLoop_round hlast (by omega), run_member_cons h,
      run_escapePair_of_head? (by simpa using hescape) h, if_neg hmember,
      ih (hmoved _ _) hrest (by omega), run_char _ h, if_neg hclose, Regex.map_past]
    cases throughBracket? rest <;> rfl

theorem run_members (h : text.toList.drop s.position = rest) :
    members.run text modes s some = (throughBracket? rest).map s.past := by
  rw [members, Node.run, Node.run]
  refine greedyLoop_member (by simp) h ?_
  have hlength := congrArg List.length h
  rw [List.length_drop, Array.length_toList] at hlength
  omega

/-- A bracket that comes first is read as a member, and as the end if no other one is found. -/
theorem run_behindCaret (h : text.toList.drop s.position = rest) :
    behindCaret.run text modes s some = (afterCaret? rest).map s.past := by
  rw [behindCaret, Node.run, Regex.run_optional, run_members h]
  by_cases hfirst : rest.head? = some ']'
  · obtain ⟨rest, rfl⟩ := List.head?_eq_some_iff.mp hfirst
    have hrest : text.toList.drop (s.past [']']).position = rest := Regex.drop_past h
    rw [run_char _ h, if_pos rfl, run_members hrest, Regex.map_past]
    simp only [afterCaret?, throughBracket?]
    cases throughBracket? rest <;> rfl
  · rw [run_char_of_head? hfirst h, afterCaret?_of_head? hfirst, Option.none_or]

/-- The caret is never given up for good: where no bracket closes behind it, none closes before. -/
theorem run_behindBracket (h : text.toList.drop s.position = rest) :
    behindBracket.run text modes s some = (classBody? rest).map s.past := by
  rw [behindBracket, Node.run, Regex.run_optional, run_behindCaret h]
  by_cases hcaret : rest.head? = some '^'
  · obtain ⟨rest, rfl⟩ := List.head?_eq_some_iff.mp hcaret
    have hrest : text.toList.drop (s.past ['^']).position = rest := Regex.drop_past h
    rw [run_char _ h, if_pos rfl, run_behindCaret hrest, Regex.map_past]
    by_cases hcloses : Closes rest
    · obtain ⟨body, behind, rfl, hends⟩ := exists_endsClass hcloses
      simp only [classBody?, afterCaret?_append hends]
      rfl
    · have hcloses' : ¬ Closes ('^' :: rest) :=
        fun h => hcloses ((closes_char_iff (by decide) (by decide)).mp h)
      rw [afterCaret?_eq_none hcloses, afterCaret?_eq_none hcloses', classBody?_eq_none hcloses']
      rfl
  · rw [run_char_of_head? hcaret h, classBody?_of_head? hcaret, Option.none_or]

theorem run_notLookbehind (h : text.toList.drop s.position = rest) :
    notLookbehind.run text modes s some = if isLookbehind rest then none else some s := by
  have hset : ((oneOf false ['=', '!']).run text modes s some).isSome = isLookbehind rest := by
    rw [Bool.eq_iff_iff, isLookbehind_iff, Marked]
    cases rest with
    | nil => simp [run_oneOf_nil _ _ h]
    | cons c rest =>
      rw [run_oneOf _ _ h]
      by_cases hc : c ∈ ['=', '!'] <;> simp_all
  rw [notLookbehind, Node.run, ← hset]
  cases (oneOf false ['=', '!']).run text modes s some <;> rfl

theorem run_openerNode (h : text.toList.drop s.position = shortOpener ++ rest)
    (hmark : ¬ Marked rest) :
    openerNode.run text modes s some = some (s.past shortOpener) := by
  have h₁ : text.toList.drop (s.past ['(']).position = '?' :: '<' :: rest := Regex.drop_past h
  have h₂ : text.toList.drop ((s.past ['(']).past ['?']).position = '<' :: rest :=
    Regex.drop_past h₁
  have h₃ : text.toList.drop (((s.past ['(']).past ['?']).past ['<']).position = rest :=
    Regex.drop_past h₂
  rw [openerNode, Node.run, run_char _ h, if_pos rfl, Node.run, run_char _ h₁, if_pos rfl,
    Node.run, run_char _ h₂, if_pos rfl, run_notLookbehind h₃,
    if_neg fun hlook => hmark ((isLookbehind_iff rest).mp hlook)]
  rfl

theorem run_openerNode_eq_none (h : text.toList.drop s.position = '(' :: rest)
    (hname : ¬ NameFollows rest) : openerNode.run text modes s some = none := by
  have h₁ : text.toList.drop (s.past ['(']).position = rest := Regex.drop_past h
  rw [openerNode, Node.run, run_char _ h, if_pos rfl, Node.run]
  by_cases hquestion : rest.head? = some '?'
  · obtain ⟨rest, rfl⟩ := List.head?_eq_some_iff.mp hquestion
    have h₂ : text.toList.drop ((s.past ['(']).past ['?']).position = rest := Regex.drop_past h₁
    rw [run_char _ h₁, if_pos rfl, Node.run]
    by_cases hangle : rest.head? = some '<'
    · obtain ⟨after, rfl⟩ := List.head?_eq_some_iff.mp hangle
      have h₃ : text.toList.drop (((s.past ['(']).past ['?']).past ['<']).position = after :=
        Regex.drop_past h₂
      have hmark : Marked after := by
        by_contra hnot
        exact hname ⟨after, rfl, hnot⟩
      rw [run_char _ h₂, if_pos rfl, run_notLookbehind h₃,
        if_pos ((isLookbehind_iff after).mpr hmark)]
    · exact run_char_of_head? hangle h₂
  · exact run_char_of_head? hquestion h₁

/-- A piece that is more than a character is what is matched where it starts. -/
theorem run_tokenNode {piece : Piece} (hpiece : ∀ c, piece ≠ .char c)
    (h : text.toList.drop s.position = piece.text ++ rest) (hstarts : piece.Starts rest) :
    tokenNode.run text modes s some = some (s.past piece.text) := by
  rw [tokenNode, Node.run, Node.run]
  cases piece with
  | escape c =>
    rw [run_escapePair h]
    rfl
  | bracket body =>
    have hbody : text.toList.drop (s.past ['[']).position = body ++ rest := Regex.drop_past h
    rw [run_escapePair_of_head? (by simp [Piece.text]) h, Node.run, run_char _ h, if_pos rfl,
      run_behindBracket hbody, classBody?_append hstarts, Regex.map_past]
    rfl
  | opener =>
    rw [run_escapePair_of_head? (by simp [Piece.text]) h, Node.run,
      run_char_of_head? (by simp [Piece.text]) h, run_openerNode h hstarts]
    rfl
  | char c => exact absurd rfl (hpiece c)

theorem run_tokenNode_char (h : text.toList.drop s.position = c :: rest)
    (hstarts : (Piece.char c).Starts rest) : tokenNode.run text modes s some = none := by
  obtain ⟨hescape, hclass, hopener⟩ := hstarts
  have hpair : escapePair.run text modes s some = none := by
    by_cases hc : c = '\\'
    · rw [hc, hescape hc] at h
      exact run_escapePair_lone h
    · exact run_escapePair_of_head? (by simpa using hc) h
  have hbracket : (Node.seq (.char '['.toNat) behindBracket).run text modes s some = none := by
    rw [Node.run, run_char _ h]
    by_cases hc : c = '['
    · have hrest : text.toList.drop (s.past [c]).position = rest := Regex.drop_past h
      rw [if_pos hc, run_behindBracket hrest, classBody?_eq_none (hclass hc)]
      rfl
    · rw [if_neg hc]
  have hname : openerNode.run text modes s some = none := by
    by_cases hc : c = '('
    · rw [hc] at h
      exact run_openerNode_eq_none h (hopener hc)
    · rw [openerNode, Node.run, run_char _ h, if_neg hc]
  rw [tokenNode, Node.run, hpair, Node.run, hbracket, hname]

theorem run_tokenNode_nil (h : text.toList.drop s.position = []) :
    tokenNode.run text modes s some = none := by
  rw [tokenNode, Node.run, run_escapePair_of_head? (by simp) h, Node.run, Node.run,
    run_char_of_head? (by simp) h, openerNode, Node.run, run_char_of_head? (by simp) h]

end

/-! ## Its matches -/

section

variable {text : Array Char} {position : Nat} {rest : List Char}

theorem matchAt?_eq (text : Array Char) (position : Nat) :
    tokenPattern.expression.matchAt? text position =
      (tokenNode.run text modes (tokenPattern.expression.freshCursor position) some).map
        fun t => ⟨position, t.position, []⟩ := by
  have hroot : tokenPattern.expression.root.run text tokenPattern.expression.flags =
      tokenNode.run text modes := rfl
  rw [Regex.Expression.matchAt?, hroot]
  cases tokenNode.run text modes (tokenPattern.expression.freshCursor position) some <;> rfl

theorem matchAt?_piece {piece : Piece} (hpiece : ∀ c, piece ≠ .char c)
    (h : text.toList.drop position = piece.text ++ rest) (hstarts : piece.Starts rest) :
    tokenPattern.expression.matchAt? text position =
      some ⟨position, position + piece.text.length, []⟩ := by
  rw [matchAt?_eq, run_tokenNode hpiece h hstarts]
  rfl

theorem matchAt?_char {c : Char} (h : text.toList.drop position = c :: rest)
    (hstarts : (Piece.char c).Starts rest) :
    tokenPattern.expression.matchAt? text position = none := by
  rw [matchAt?_eq, run_tokenNode_char h hstarts]
  rfl

theorem matchAt?_nil (h : text.toList.drop position = []) :
    tokenPattern.expression.matchAt? text position = none := by
  rw [matchAt?_eq, run_tokenNode_nil h]
  rfl

theorem searchesLeftmost_tokens (text : Array Char) :
    tokenPattern.expression.SearchesLeftmost text :=
  Regex.Expression.searchesLeftmost_of_startSet rfl

/-- A walk passes over a place without a match. -/
theorem matchesFrom_skip {p : Pattern} (hs : p.sticky = false)
    (hleft : p.expression.SearchesLeftmost text) (bound : Nat) (hp : position < text.size)
    (hm : p.expression.matchAt? text position = none) :
    p.matchesFrom text bound position = p.matchesFrom text bound (position + 1) := by
  have hcount : text.size + 1 - position = text.size + 1 - (position + 1) + 1 := by omega
  have hfind : p.findAt? text position = p.findAt? text (position + 1) := by
    simp only [findAt?, hs, Bool.false_eq_true, if_false]
    rw [hleft position (by omega), hleft (position + 1) hp, hcount, List.range'_succ,
      List.findSome?_cons, hm]
  cases bound with
  | zero => rfl
  | succ bound =>
    rw [matchesFrom, matchesFrom, if_pos (by omega), if_pos (by omega), hfind]

theorem matchesFrom_eq_nil {p : Pattern} (hs : p.sticky = false)
    (hleft : p.expression.SearchesLeftmost text) (bound : Nat) (hp : text.size ≤ position)
    (hm : p.expression.matchAt? text position = none) :
    p.matchesFrom text bound position = [] := by
  cases bound with
  | zero => rfl
  | succ bound =>
    rw [matchesFrom]
    by_cases hle : position ≤ text.size
    · have hcount : text.size + 1 - position = 0 + 1 := by omega
      have hfind : p.findAt? text position = none := by
        simp only [findAt?, hs, Bool.false_eq_true, if_false]
        rw [hleft position hle, hcount, List.range'_succ, List.findSome?_cons, hm]
        rfl
      rw [if_pos hle, hfind]
    · rw [if_neg hle]

theorem matchesFrom_piece {piece : Piece} (hpiece : ∀ c, piece ≠ .char c)
    (h : text.toList.drop position = piece.text ++ rest) (hstarts : piece.Starts rest)
    (bound : Nat) :
    tokenPattern.matchesFrom text (bound + 1) position =
      ⟨position, position + piece.text.length, []⟩ ::
        tokenPattern.matchesFrom text bound (position + piece.text.length) := by
  have hlength : piece.text.length + rest.length = text.size - position := by
    rw [← List.length_append, ← h, List.length_drop, Array.length_toList]
  have hpositive := piece.length_text_pos
  have hp : position ≤ text.size := by omega
  have hfind : tokenPattern.findAt? text position =
      some ⟨position, position + piece.text.length, []⟩ :=
    (searchesLeftmost_tokens text).found_at hp (matchAt?_piece hpiece h hstarts)
  have hafter : (⟨position, position + piece.text.length, []⟩ : Regex.Match).after =
      position + piece.text.length := by
    rw [Regex.Match.after, if_neg (show position ≠ position + piece.text.length by omega)]
  rw [matchesFrom, if_pos hp, hfind]
  simp only [hafter]

end

/-! ## Substitution -/

/-- A text from a position on with its matches replaced. -/
def replaceFrom (text : Array Char) (replace : List Char → List Char) :
    Nat → List Regex.Match → List Char
  | position, [] => (text.extract position).toList
  | position, m :: ms =>
    (text.extract position m.start).toList ++
      (replace (text.extract m.start m.stop).toList ++ replaceFrom text replace m.stop ms)

/-- A text with each match of a pattern replaced. -/
def substitute (p : Pattern) (replace : List Char → List Char) (data : String) : String :=
  String.ofList (replaceFrom (textOf data) replace 0 (p.matchesIn (textOf data)))

/-- What an opener is replaced by; anything else stays as it is. -/
def withLetter (token : List Char) : List Char :=
  if token = shortOpener then longOpener else token

theorem withLetter_text (piece : Piece) (hpiece : ∀ c, piece ≠ .char c) :
    withLetter piece.text = piece.respelled := by
  cases piece with
  | opener => rfl
  | char c => exact absurd rfl (hpiece c)
  | escape c => rfl
  | bracket body => rfl

theorem extract_toList (text : Array Char) (start stop : Nat) :
    (text.extract start stop).toList = (text.toList.drop start).take (stop - start) := by
  rw [Array.toList_extract, List.extract_eq_take_drop]

/-- A character in front of all matches is copied. -/
theorem replaceFrom_cons {text : Array Char} {replace : List Char → List Char} {position : Nat}
    {c : Char} {rest : List Char} {ms : List Regex.Match}
    (h : text.toList.drop position = c :: rest) (hms : ∀ m ∈ ms, position < m.start) :
    replaceFrom text replace position ms = c :: replaceFrom text replace (position + 1) ms := by
  have hnext : text.toList.drop (position + 1) = rest := by
    rw [← List.drop_drop, h, List.drop_one, List.tail_cons]
  have hextract (stop : Nat) (hstop : position < stop) :
      (text.extract position stop).toList = c :: (text.extract (position + 1) stop).toList := by
    obtain ⟨size, rfl⟩ : ∃ size, stop = position + 1 + size := ⟨stop - (position + 1), by omega⟩
    have hsize : position + 1 + size - position = size + 1 := by omega
    rw [extract_toList, extract_toList, h, hnext, hsize, List.take_succ_cons,
      Nat.add_sub_cancel_left]
  cases ms with
  | nil =>
    have hlength := congrArg List.length h
    rw [List.length_drop, Array.length_toList, List.length_cons] at hlength
    exact hextract text.size (by omega)
  | cons m ms =>
    rw [replaceFrom, replaceFrom, hextract m.start (hms m (List.mem_cons_self ..))]
    rfl

theorem replaceFrom_piece {text : Array Char} {replace : List Char → List Char} {position : Nat}
    {w rest : List Char} {ms : List Regex.Match} (h : text.toList.drop position = w ++ rest) :
    replaceFrom text replace position (⟨position, position + w.length, []⟩ :: ms) =
      replace w ++ replaceFrom text replace (position + w.length) ms := by
  have hnone : (text.extract position position).toList = [] := by
    rw [extract_toList, Nat.sub_self, List.take_zero]
  have hmatched : (text.extract position (position + w.length)).toList = w := by
    rw [extract_toList, h, Nat.add_sub_cancel_left, List.take_left]
  rw [replaceFrom]
  simp only [hnone, hmatched, List.nil_append]

/-- From the start of a piece on, the pieces are replaced one by one. -/
theorem replaceFrom_matchesFrom {text : Array Char} {ps : List Piece} (hcuts : Cuts ps)
    {bound position : Nat} (h : text.toList.drop position = written ps)
    (hb : text.size + 1 ≤ bound + position) :
    replaceFrom text withLetter position (tokenPattern.matchesFrom text bound position) =
      ps.flatMap Piece.respelled := by
  have hleft := searchesLeftmost_tokens text
  induction ps generalizing bound position with
  | nil =>
    have hsize : text.size ≤ position := by
      rwa [written, List.flatMap_nil, List.drop_eq_nil_iff, Array.length_toList] at h
    rw [matchesFrom_eq_nil rfl hleft bound hsize (matchAt?_nil h), replaceFrom, extract_toList, h]
    exact List.take_nil
  | cons piece ps ih =>
    rw [written_cons] at h
    have hrest : text.toList.drop (position + piece.text.length) = written ps := by
      rw [← List.drop_drop, h, List.drop_left]
    have hlength := congrArg List.length h
    rw [List.length_drop, Array.length_toList, List.length_append] at hlength
    have hpositive := piece.length_text_pos
    rw [List.flatMap_cons]
    by_cases hchar : ∃ c, piece = .char c
    · obtain ⟨c, rfl⟩ := hchar
      have hnext : replaceFrom text withLetter (position + 1)
          (tokenPattern.matchesFrom text bound (position + 1)) = ps.flatMap Piece.respelled :=
        ih hcuts.2 hrest (by omega)
      rw [matchesFrom_skip rfl hleft bound (by omega) (matchAt?_char h hcuts.1),
        replaceFrom_cons h fun m hm => (matchesFrom_found bound hm).1, hnext]
      rfl
    · have hpiece : ∀ c, piece ≠ .char c := fun c hc => hchar ⟨c, hc⟩
      obtain ⟨bound, rfl⟩ : ∃ b, bound = b + 1 := ⟨bound - 1, by omega⟩
      rw [matchesFrom_piece hpiece h hcuts.1, replaceFrom_piece h, withLetter_text piece hpiece,
        ih hcuts.2 hrest (by omega)]

theorem substitute_tokenPattern (pattern : String) :
    substitute tokenPattern withLetter pattern = respell pattern := by
  obtain ⟨hwritten, hcuts⟩ := written_pieces pattern.toList
  have htext : (textOf pattern).toList.drop 0 = written (pieces pattern.toList) := by
    rw [hwritten]
    rfl
  rw [substitute, matchesIn, replaceFrom_matchesFrom hcuts htext (Nat.le_refl _), respell]

/-! ## What is rewritten -/

/-- A text falls into pieces in one way. Respelling it puts one letter into each opener that lacks
it, in front of the angle bracket, and changes nothing else; it is what replacing the matches of one
expression makes of the text. -/
theorem respell_inserts_letters (pattern : String) :
    (∃! ps, written ps = pattern.toList ∧ Cuts ps) ∧
    (∃ places : List Nat, places.Pairwise (· < ·) ∧
      (∀ j, j ∈ places ↔ ∃ i, j = i + 2 ∧ OpenerAt shortOpener pattern.toList i) ∧
      (respell pattern).toList = lettered places pattern.toList ∧
      (respell pattern).length = pattern.length + places.length ∧
      without (shifted 0 places) (respell pattern).toList = pattern.toList) ∧
    ∃ p, compile tokenSource "su" = .ok p ∧ substitute p withLetter pattern = respell pattern := by
  obtain ⟨hwritten, hcuts⟩ := written_pieces pattern.toList
  have hrespell : (respell pattern).toList = (pieces pattern.toList).flatMap Piece.respelled := by
    rw [respell, String.toList_ofList]
  let places := angles 0 (pieces pattern.toList)
  have hlettered : lettered places (written (pieces pattern.toList)) =
      (pieces pattern.toList).flatMap Piece.respelled := changed_angles fun _ _ => Iff.rfl
  have hwithout : without (shifted 0 places) ((pieces pattern.toList).flatMap Piece.respelled) =
      written (pieces pattern.toList) := changed_shifted fun _ _ => Iff.rfl
  refine ⟨existsUnique_cuts _, ⟨places, pairwise_angles 0 _, ?_, ?_, ?_, ?_⟩, tokenPattern,
    compile_tokenSource, substitute_tokenPattern pattern⟩
  · intro j
    rw [mem_angles_iff hcuts, hwritten]
    simp only [Nat.zero_add]
  · rw [hrespell, ← hlettered, hwritten]
  · rw [← String.length_toList, ← String.length_toList, hrespell, length_respelled 0, hwritten]
  · rw [hrespell, hwithout, hwritten]

/-- Where no other bracket closes a class the first one does, and a bracket that none closes opens
no class. -/
example : respell "[](?<a>x)[(?<b>" = "[](?P<a>x)[(?P<b>" := by decide +kernel

end Pattern

end Linting
