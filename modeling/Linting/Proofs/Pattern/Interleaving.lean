import Linting.Proofs.Pattern.Walk

/-! Several walks with one pattern. Walks may be begun, asked for their next match and mixed with
single searches in any order; each one answers what it answers when it is the only one. -/

namespace Linting.Pattern
set_option autoImplicit false

/-! ## One walk alone -/

namespace Walk

/-- The answers of a walk that is asked a number of times in a row. -/
def answers : Nat → Walk → List (Option Regex.Match)
  | 0, _ => []
  | n + 1, w => w.next.1 :: answers n w.next.2

/-- The walk after it has been asked a number of times. -/
def asked : Nat → Walk → Walk
  | 0, w => w
  | n + 1, w => asked n w.next.2

/-- One more question is put to the walk as the others have left it. -/
theorem answers_succ (n : Nat) (w : Walk) :
    w.answers (n + 1) = w.answers n ++ [(w.asked n).next.1] := by
  induction n generalizing w with
  | zero => rfl
  | succ n ih => rw [answers, ih, answers, asked, List.cons_append]

theorem asked_succ (n : Nat) (w : Walk) : w.asked (n + 1) = (w.asked n).next.2 := by
  induction n generalizing w with
  | zero => rfl
  | succ n ih => rw [asked, ih, asked]

/-- A walk that has reported its end reports it again, and stays as it is. -/
theorem next_of_end {w w' : Walk} (h : w.next = (none, w')) : w'.next = (none, w') := by
  have hend : w'.position = none := by
    unfold next at h
    split at h
    · next hposition =>
      obtain rfl := (Prod.mk.inj h).2
      exact hposition
    · split at h
      · split at h
        · cases (Prod.mk.inj h).1
        · rw [← (Prod.mk.inj h).2]
      · rw [← (Prod.mk.inj h).2]
  rw [next, hend]

theorem next_asked_of_end {w w' : Walk} (h : w.next = (none, w')) (n : Nat) :
    (w.asked n).next.1 = none := by
  induction n generalizing w with
  | zero => rw [asked, h]
  | succ n ih =>
    rw [asked, h]
    exact ih (next_of_end h)

/-- A walk answers with its matches, one after the other, and from then on with its end. -/
theorem Reports.next_asked {w : Walk} {ms : List Regex.Match} (h : w.Reports ms) (n : Nat) :
    (w.asked n).next.1 = ms[n]? := by
  induction h generalizing n with
  | done hnext => rw [next_asked_of_end hnext, List.getElem?_nil]
  | more hnext _ ih =>
    cases n with
    | zero => rw [asked, hnext, List.getElem?_cons_zero]
    | succ n => rw [asked, hnext, ih, List.getElem?_cons_succ]

theorem Reports.answers_eq {w : Walk} {ms : List Regex.Match} (h : w.Reports ms) (n : Nat) :
    w.answers n = (ms.take n).map some ++ List.replicate (n - ms.length) none := by
  induction n with
  | zero => rw [Nat.zero_sub]; rfl
  | succ n ih =>
    rw [answers_succ, ih, h.next_asked]
    by_cases hn : n < ms.length
    · rw [List.getElem?_eq_getElem hn, Nat.sub_eq_zero_of_le hn,
        Nat.sub_eq_zero_of_le (Nat.le_of_lt hn), List.take_succ_eq_append_getElem hn,
        List.map_append]
      simp
    · have hle : ms.length ≤ n := Nat.le_of_not_lt hn
      rw [List.getElem?_eq_none hle, List.take_of_length_le hle,
        List.take_of_length_le (Nat.le_succ_of_le hle), Nat.succ_sub hle, List.append_assoc,
        ← List.replicate_succ']

end Walk

/-! ## Walks together -/

/-- What may be done with a pattern. Walks are numbered in the order in which they are started. -/
inductive Use where
  | start (data : String)
  | next (walk : Nat)
  | find (data : String) (position : Int)

inductive Reply where
  | started (data : String)
  | delivered (walk : Nat) (m : Option Regex.Match)
  | found (m : Option Regex.Match)

def Reply.text? : Reply → Option String
  | started data => some data
  | _ => none

/-- What a reply tells of a walk. -/
def Reply.of? (i : Nat) : Reply → Option (Option Regex.Match)
  | delivered j m => if j = i then some m else none
  | _ => none

/-- A pattern, the walks that were started with it, and the replies so far. -/
structure Session where
  pattern : Pattern
  walks : List Walk := []
  replies : List Reply := []

namespace Session

/-- Uses the pattern once. A walk that was not started cannot be asked. -/
def step (s : Session) : Use → Session
  | .start data =>
    { s with walks := s.walks ++ [.start s.pattern data], replies := s.replies ++ [.started data] }
  | .next i =>
    match s.walks[i]? with
    | none => s
    | some w =>
      { s with walks := s.walks.set i w.next.2, replies := s.replies ++ [.delivered i w.next.1] }
  | .find data position =>
    { s with replies := s.replies ++ [.found (s.pattern.findNext? data position)] }

def run (s : Session) (uses : List Use) : Session := uses.foldl step s

/-- The texts of the walks, in the order in which they were started. -/
def texts (s : Session) : List String := s.replies.filterMap Reply.text?

/-- What a walk has delivered: matches, and its end each time it reported that. -/
def delivered (s : Session) (i : Nat) : List (Option Regex.Match) :=
  s.replies.filterMap (Reply.of? i)

/-! ## What each walk delivers -/

/-- A number that stands for no walk, or for one that is where it would be, and has delivered what
it would have, had it been asked as often without the others. -/
inductive Follows (p : Pattern) :
    Option String → Option Walk → List (Option Regex.Match) → Prop where
  | notStarted : Follows p none none []
  | alone (data : String) (n : Nat) :
      Follows p (some data) (some ((Walk.start p data).asked n)) ((Walk.start p data).answers n)

/-- Each walk of the session goes its own way. -/
def Independent (s : Session) : Prop :=
  ∀ i, Follows s.pattern s.texts[i]? s.walks[i]? (s.delivered i)

section

variable {s : Session} {w : Walk} {i : Nat} {data : String} {p : Pattern} {text : Option String}
  {walk : Option Walk} {delivered : List (Option Regex.Match)}

/-- A reply of no interest is passed over. -/
theorem filterMap_concat_none {α β : Type} {f : α → Option β} {a : α} (h : f a = none)
    (as : List α) : (as ++ [a]).filterMap f = as.filterMap f := by
  rw [List.filterMap_append, List.filterMap_cons_none h, List.filterMap_nil, List.append_nil]

theorem Follows.of_none (h : Follows p none walk delivered) : walk = none ∧ delivered = [] := by
  cases h
  exact ⟨rfl, rfl⟩

theorem Follows.of_some (h : Follows p (some data) walk delivered) :
    ∃ n, walk = some ((Walk.start p data).asked n) ∧
      delivered = (Walk.start p data).answers n := by
  cases h with
  | alone data n => exact ⟨n, rfl, rfl⟩

theorem Follows.none_iff (h : Follows p text walk delivered) : text = none ↔ walk = none := by
  cases h <;> simp

theorem Follows.next (h : Follows p text (some w) delivered) :
    Follows p text (some w.next.2) (delivered ++ [w.next.1]) := by
  cases h with
  | alone data n =>
    rw [← Walk.asked_succ, ← Walk.answers_succ]
    exact .alone data (n + 1)

theorem Independent.length_eq (h : s.Independent) : s.texts.length = s.walks.length := by
  have hiff (i : Nat) := (h i).none_iff
  simp only [List.getElem?_eq_none_iff] at hiff
  exact Nat.le_antisymm ((hiff _).mpr (Nat.le_refl _)) ((hiff _).mp (Nat.le_refl _))

theorem Independent.start (h : s.Independent) (data : String) :
    (s.step (.start data)).Independent := by
  intro i
  have hi := h i
  have htexts : (s.step (.start data)).texts = s.texts ++ [data] := List.filterMap_append
  have hdelivered : (s.step (.start data)).delivered i = s.delivered i :=
    filterMap_concat_none rfl s.replies
  have hwalks : (s.step (.start data)).walks = s.walks ++ [.start s.pattern data] := rfl
  rw [htexts, hdelivered, hwalks]
  by_cases hnew : i = s.texts.length
  · -- the number of the new walk stood for none before
    rw [List.getElem?_eq_none (Nat.le_of_eq hnew.symm)] at hi
    rw [hi.of_none.2, hnew, List.getElem?_concat_length, h.length_eq, List.getElem?_concat_length]
    exact .alone data 0
  · have hother {α : Type} (xs : List α) (x : α) (hlength : xs.length = s.texts.length) :
        (xs ++ [x])[i]? = xs[i]? := by
      rw [List.getElem?_append, List.getElem?_singleton]
      grind
    rw [hother _ _ rfl, hother _ _ h.length_eq.symm]
    exact hi

theorem Independent.next (h : s.Independent) (j : Nat) : (s.step (.next j)).Independent := by
  rw [step]
  split
  · exact h
  · next w hw =>
    intro i
    have hi := h i
    let after : Session :=
      { s with walks := s.walks.set j w.next.2, replies := s.replies ++ [.delivered j w.next.1] }
    have htexts : after.texts = s.texts := filterMap_concat_none rfl s.replies
    change Follows s.pattern after.texts[i]? (s.walks.set j w.next.2)[i]? (after.delivered i)
    rw [htexts]
    by_cases hij : j = i
    · subst hij
      have hdelivered : after.delivered j = s.delivered j ++ [w.next.1] := by
        rw [delivered, List.filterMap_append, List.filterMap_cons, Reply.of?, if_pos rfl]
        rfl
      rw [hdelivered, List.getElem?_set_self (List.getElem?_eq_some_iff.mp hw).1]
      rw [hw] at hi
      exact hi.next
    · have hskip : Reply.of? i (.delivered j w.next.1) = none := if_neg hij
      have hdelivered : after.delivered i = s.delivered i := filterMap_concat_none hskip s.replies
      rwa [hdelivered, List.getElem?_set_ne hij]

theorem Independent.find (h : s.Independent) (data : String) (position : Int) :
    (s.step (.find data position)).Independent := by
  intro i
  have htexts : (s.step (.find data position)).texts = s.texts :=
    filterMap_concat_none rfl s.replies
  have hdelivered : (s.step (.find data position)).delivered i = s.delivered i :=
    filterMap_concat_none rfl s.replies
  rw [htexts, hdelivered]
  exact h i

theorem Independent.step (h : s.Independent) : (use : Use) → (s.step use).Independent
  | .start data => h.start data
  | .next j => h.next j
  | .find data position => h.find data position

theorem pattern_step (s : Session) (use : Use) : (s.step use).pattern = s.pattern := by
  cases use with
  | start data => rfl
  | next j =>
    rw [step]
    split <;> rfl
  | find data position => rfl

theorem Independent.run (h : s.Independent) (uses : List Use) :
    (s.run uses).Independent ∧ (s.run uses).pattern = s.pattern := by
  induction uses generalizing s with
  | nil => exact ⟨h, rfl⟩
  | cons use rest ih =>
    have hrest := ih (h.step use)
    rwa [pattern_step] at hrest

end

end Session

/-- However walks with one pattern are mixed with each other and with single searches, what a walk
has delivered are matches of its run alone from the first one on, all of them if it has reported its
end, and only its end after that; asked again, it goes on as it would alone. A single search answers
for its own text and position. -/
theorem walks_independent (p : Pattern) (uses : List Use) :
    let s := (Session.mk p [] []).run uses
    (∀ i data, s.texts[i]? = some data → ∃ solo taken ends, (Walk.start p data).Reports solo ∧
      s.delivered i = taken.map some ++ List.replicate ends none ∧
      taken <+: solo ∧ (ends ≠ 0 → taken = solo) ∧
      (s.step (.next i)).replies = s.replies ++ [.delivered i solo[taken.length]?]) ∧
    ∀ data position,
      (s.step (.find data position)).replies =
        s.replies ++ [.found (p.findNext? data position)] := by
  intro s
  have hstart : (Session.mk p [] []).Independent := fun _ => .notStarted
  obtain ⟨hs, hpattern⟩ := hstart.run uses
  refine ⟨fun i data hdata => ?_, fun data position => ?_⟩
  · have hreports : (Walk.start p data).Reports (p.matchesIn (textOf data)) :=
      reports_matchesFrom p (textOf data) _ 0 (Nat.le_refl _)
    obtain ⟨n, hwalk, hdelivered⟩ := Session.Follows.of_some (hdata ▸ hs i)
    rw [hpattern] at hwalk hdelivered
    refine ⟨_, _, _, hreports, hdelivered.trans (hreports.answers_eq n), List.take_prefix _ _,
      ?_, ?_⟩
    · intro hends
      exact List.take_of_length_le (by omega)
    · have hnext : (s.step (.next i)).replies =
          s.replies ++ [.delivered i ((Walk.start p data).asked n).next.1] := by
        rw [Session.step, hwalk]
      rw [hnext, hreports.next_asked, List.length_take]
      by_cases hn : n ≤ (p.matchesIn (textOf data)).length
      · rw [Nat.min_eq_left hn]
      · rw [List.getElem?_eq_none (by omega), List.getElem?_eq_none (by omega)]
  · change s.replies ++ [.found (s.pattern.findNext? data position)] = _
    rw [hpattern]

/-- Two walks with stars, mixed with each other and with a search. -/
theorem walks_independent_stars :
    let p : Pattern :=
      ⟨"a*", "g", ⟨.loop .greedy 0 none (.char 0x61), { ascii := true }, 0, []⟩, false⟩
    let s := (Session.mk p [] []).run [.start "ba", .next 0, .start "ab", .next 1, .next 0,
      .find "aa" 1, .next 1, .next 0, .next 1, .next 0]
    s.texts[1]? = some "ab" ∧
      s.delivered 0 = [some ⟨0, 0, []⟩, some ⟨1, 2, []⟩, some ⟨2, 2, []⟩, none] ∧
      ∃ solo taken ends, (Walk.start p "ab").Reports solo ∧
        s.delivered 1 = taken.map some ++ List.replicate ends none ∧ taken <+: solo ∧
        (s.step (.next 1)).replies = s.replies ++ [.delivered 1 solo[taken.length]?] := by
  intro p s
  have htext : s.texts[1]? = some "ab" := by decide +kernel
  obtain ⟨solo, taken, ends, hsolo, hdelivered, htaken, -, hnext⟩ :=
    (walks_independent p _).1 1 "ab" htext
  exact ⟨htext, by decide +kernel, solo, taken, ends, hsolo, hdelivered, htaken, hnext⟩

end Linting.Pattern
