import Linting.Proofs.Diagnostic.Defaults

/-! What the fields of a match are taken from. Only nine named groups are looked at, and in seven of
them a capture that is empty is no different from one that is missing. Each coordinate has a group
of its own and one that it shares with the other side of the range; its own comes first, and touches
no other coordinate. -/

namespace Linting
set_option autoImplicit false

/-! ## Sides and axes of a range -/

inductive Side where
  | start
  | stop
deriving DecidableEq

inductive Axis where
  | line
  | column
deriving DecidableEq

/-- The group that gives the coordinate of one side alone. -/
def ownGroup : Side → Axis → String
  | .start, .line => "lineStart"
  | .start, .column => "colStart"
  | .stop, .line => "lineEnd"
  | .stop, .column => "colEnd"

/-- The group that gives the coordinate of both sides. -/
def sharedGroup : Axis → String
  | .line => "line"
  | .column => "col"

theorem ownGroup_inj {side other : Side} {axis otherAxis : Axis}
    (h : ownGroup other otherAxis = ownGroup side axis) : other = side ∧ otherAxis = axis := by
  cases side <;> cases axis <;> cases other <;> cases otherAxis <;> simp_all [ownGroup]

theorem ne_ownGroup {name : String} (h : name ∈ ["type", "message", "file", "line", "col"])
    (side : Side) (axis : Axis) : name ≠ ownGroup side axis := by
  rintro rfl
  cases side <;> cases axis <;> exact absurd h (by decide)

namespace MatchFields

/-- A coordinate as it was captured. -/
def raw (f : MatchFields) : Side → Axis → Option String
  | .start, .line => f.lineStart
  | .start, .column => f.colStart
  | .stop, .line => f.lineEnd
  | .stop, .column => f.colEnd

/-- The fields with one coordinate captured otherwise. -/
def withRaw (f : MatchFields) (s : String) : Side → Axis → MatchFields
  | .start, .line => { f with lineStart := some s }
  | .start, .column => { f with colStart := some s }
  | .stop, .line => { f with lineEnd := some s }
  | .stop, .column => { f with colEnd := some s }

theorem raw_withRaw (f : MatchFields) (s : String) (side other : Side) (axis otherAxis : Axis) :
    (f.withRaw s side axis).raw other otherAxis =
      if other = side ∧ otherAxis = axis then some s else f.raw other otherAxis := by
  cases side <;> cases axis <;> cases other <;> cases otherAxis <;> rfl

end MatchFields

namespace TextRange

/-- A coordinate, counted from zero. -/
def number (r : TextRange) : Side → Axis → Nat
  | .start, .line => r.start.line
  | .start, .column => r.start.column
  | .stop, .line => r.stop.line
  | .stop, .column => r.stop.column

/-- The range with one coordinate replaced. -/
def withNumber (r : TextRange) (k : Nat) : Side → Axis → TextRange
  | .start, .line => { r with start := { r.start with line := k } }
  | .start, .column => { r with start := { r.start with column := k } }
  | .stop, .line => { r with stop := { r.stop with line := k } }
  | .stop, .column => { r with stop := { r.stop with column := k } }

theorem number_withNumber (r : TextRange) (k : Nat) (side other : Side) (axis otherAxis : Axis) :
    (r.withNumber k side axis).number other otherAxis =
      if other = side ∧ otherAxis = axis then k else r.number other otherAxis := by
  cases side <;> cases axis <;> cases other <;> cases otherAxis <;> rfl

end TextRange

/-! ## Captures that are looked at -/

/-- The groups of which an empty capture counts as none. -/
def fallbackGroups : List String :=
  ["file", "line", "col", "lineStart", "colStart", "lineEnd", "colEnd"]

/-- Whether two matches look alike: they agree on type and message, and on the other fields up to
captures that are empty. -/
structure GroupMap.LookAlike (groups groups' : GroupMap) : Prop where
  type : groups'.capture "type" = groups.capture "type"
  message : groups'.capture "message" = groups.capture "message"
  others : ∀ name ∈ fallbackGroups,
    nonempty? (groups'.capture name) = nonempty? (groups.capture name)

section

variable {groups groups' : GroupMap} {default : Option String}

theorem nonempty?_some {s : String} (h : s ≠ "") : nonempty? (some s) = some s := by
  rw [nonempty?_eq, if_neg (by simpa using h)]

theorem resolve_cons (groups : GroupMap) (name : String) (names : List String) :
    groups.resolve (name :: names) =
      (nonempty? (groups.capture name)).or (groups.resolve names) := by
  rw [GroupMap.resolve]
  cases groups.capture name with
  | none => rfl
  | some s =>
    cases hempty : s.isEmpty with
    | true => simp [nonempty?, hempty]
    | false => simp [nonempty?, hempty]

theorem resolve_congr {names : List String}
    (h : ∀ name ∈ names, nonempty? (groups'.capture name) = nonempty? (groups.capture name)) :
    groups'.resolve names = groups.resolve names := by
  induction names with
  | nil => rfl
  | cons name names ih =>
    obtain ⟨hname, hnames⟩ := List.forall_mem_cons.mp h
    rw [resolve_cons, resolve_cons, hname, ih hnames]

namespace MatchFields

theorem ofGroups_congr (h : groups.LookAlike groups') (default : Option String) :
    ofGroups groups' default = ofGroups groups default := by
  have hresolve {names : List String} (hsub : ∀ name ∈ names, name ∈ fallbackGroups) :
      groups'.resolve names = groups.resolve names :=
    resolve_congr fun name hname => h.others name (hsub name hname)
  rw [ofGroups, ofGroups, h.type, h.message, hresolve (by decide), hresolve (by decide),
    hresolve (by decide), hresolve (by decide), hresolve (by decide)]

/-- A coordinate is what its own group captured, or else what the shared one did. -/
theorem raw_ofGroups (groups : GroupMap) (default : Option String) (side : Side) (axis : Axis) :
    (ofGroups groups default).raw side axis =
      (nonempty? (groups.capture (ownGroup side axis))).or
        (nonempty? (groups.capture (sharedGroup axis))) := by
  have hresolve : (ofGroups groups default).raw side axis =
      groups.resolve [ownGroup side axis, sharedGroup axis] := by
    cases side <;> cases axis <;> rfl
  rw [hresolve, resolve_cons, resolve_cons, GroupMap.resolve, Option.or_none]

theorem range_eq_ok_iff_number {f : MatchFields} {r : TextRange} :
    f.range = .ok r ↔ ∀ side axis,
      Coordinate.normalize (Diagnostic.ofText (f.raw side axis)) = .ok (r.number side axis) := by
  rw [range_eq_ok_iff]
  constructor
  · rintro ⟨hstartLine, hstartColumn, hstopLine, hstopColumn⟩ side axis
    cases side <;> cases axis <;> assumption
  · intro h
    exact ⟨h .start .line, h .start .column, h .stop .line, h .stop .column⟩

/-- Without captures of their own, both sides have the same coordinate. -/
theorem raw_start_eq_stop {axis : Axis}
    (h : ∀ side, nonempty? (groups.capture (ownGroup side axis)) = none) :
    (ofGroups groups default).raw .start axis = (ofGroups groups default).raw .stop axis := by
  rw [raw_ofGroups, raw_ofGroups, h, h]

theorem eq_of_raw {f g : MatchFields} (htype : f.type = g.type) (hmessage : f.message = g.message)
    (hfile : f.filePath = g.filePath) (hraw : ∀ side axis, f.raw side axis = g.raw side axis) :
    f = g := by
  have hstartLine := hraw .start .line
  have hstartColumn := hraw .start .column
  have hstopLine := hraw .stop .line
  have hstopColumn := hraw .stop .column
  cases f
  cases g
  simp_all [raw]

/-- A capture of its own takes the place of one coordinate and of nothing else. -/
theorem ofGroups_own {side : Side} {axis : Axis} {s : String} (hs : s ≠ "")
    (hown : groups'.capture (ownGroup side axis) = some s)
    (hothers : ∀ name, name ≠ ownGroup side axis → groups'.capture name = groups.capture name) :
    ofGroups groups' default = (ofGroups groups default).withRaw s side axis := by
  have hplain {name : String} (h : name ∈ ["type", "message", "file", "line", "col"]) :
      groups'.capture name = groups.capture name := hothers name (ne_ownGroup h side axis)
  have hfile : groups'.resolve ["file"] = groups.resolve ["file"] := by
    rw [resolve_cons, resolve_cons, hplain (by decide)]
    rfl
  apply eq_of_raw
  · exact (hplain (by decide)).trans (by cases side <;> cases axis <;> rfl)
  · exact (hplain (by decide)).trans (by cases side <;> cases axis <;> rfl)
  · rw [ofGroups, hfile]
    cases side <;> cases axis <;> rfl
  · intro other otherAxis
    have hshared : groups'.capture (sharedGroup otherAxis) =
        groups.capture (sharedGroup otherAxis) := by
      cases otherAxis <;> exact hplain (by decide)
    rw [raw_withRaw, raw_ofGroups, raw_ofGroups, hshared]
    split
    · next hsame =>
      rw [hsame.1, hsame.2, hown, nonempty?_some hs, Option.some_or]
    · next hother =>
      rw [hothers _ fun h => hother (ownGroup_inj h)]

/-- With a capture of its own, one coordinate is what it counts as, and the others are what they
were. -/
theorem range_withRaw {f : MatchFields} {r : TextRange} {side : Side} {axis : Axis} {s : String}
    {k : Nat} (hr : f.range = .ok r) (hk : Coordinate.normalize (.text s) = .ok k) :
    (f.withRaw s side axis).range = .ok (r.withNumber k side axis) := by
  rw [range_eq_ok_iff_number] at hr ⊢
  intro other otherAxis
  rw [raw_withRaw, TextRange.number_withNumber]
  split
  · exact hk
  · exact hr other otherAxis

/-- The fields of a match are taken from nine groups. Matches that look alike in these have the same
fields, whatever else they have captured. Where no side has a coordinate of its own, both have the
same; where one has, that coordinate is what it counts as, and nothing else is touched. -/
theorem fields_from_nine_groups :
    (∀ (groups groups' : GroupMap) (default : Option String), groups.LookAlike groups' →
      ofGroups groups' default = ofGroups groups default) ∧
    (∀ (groups : GroupMap) (default : Option String) (axis : Axis),
      (∀ side, nonempty? (groups.capture (ownGroup side axis)) = none) →
      (ofGroups groups default).raw .start axis = (ofGroups groups default).raw .stop axis ∧
      ∀ r, (ofGroups groups default).range = .ok r → r.number .start axis = r.number .stop axis) ∧
    ∀ (groups groups' : GroupMap) (default : Option String) (side : Side) (axis : Axis)
      (s : String), s ≠ "" → groups'.capture (ownGroup side axis) = some s →
      (∀ name, name ≠ ownGroup side axis → groups'.capture name = groups.capture name) →
      ofGroups groups' default = (ofGroups groups default).withRaw s side axis ∧
      (∀ r', (ofGroups groups' default).range = .ok r' →
        Coordinate.normalize (.text s) = .ok (r'.number side axis)) ∧
      ∀ r k, (ofGroups groups default).range = .ok r → Coordinate.normalize (.text s) = .ok k →
        (ofGroups groups' default).range = .ok (r.withNumber k side axis) := by
  refine ⟨fun groups groups' default h => ofGroups_congr h default,
    fun groups default axis h => ⟨raw_start_eq_stop h, fun r hr => ?_⟩, ?_⟩
  · rw [range_eq_ok_iff_number] at hr
    have hstart := hr .start axis
    rw [raw_start_eq_stop h, hr .stop axis] at hstart
    exact (Except.ok.inj hstart).symm
  · intro groups groups' default side axis s hs hown hothers
    have hfields : ofGroups groups' default = (ofGroups groups default).withRaw s side axis :=
      ofGroups_own hs hown hothers
    refine ⟨hfields, fun r' hr' => ?_, fun r k hr hk => ?_⟩
    · have hnumber := range_eq_ok_iff_number.mp hr' side axis
      rw [hfields, raw_withRaw, if_pos ⟨rfl, rfl⟩] at hnumber
      exact hnumber
    · rw [hfields]
      exact range_withRaw hr hk

/-- A line of both sides, and a line of the stop's own put in front of an empty one. -/
theorem fields_from_nine_groups_own_stop :
    let groups : GroupMap :=
      [("type", some ""), ("line", some "3"), ("lineEnd", some ""), ("code", some "E1")]
    let other : GroupMap := [("file", none), ("line", some "3"), ("type", some "")]
    let owned : GroupMap := ("lineEnd", some "5") :: groups
    groups.LookAlike other ∧ ofGroups other none = ofGroups groups none ∧
      (∀ side, nonempty? (groups.capture (ownGroup side .line)) = none) ∧
      (ofGroups groups none).raw .start .line = (ofGroups groups none).raw .stop .line ∧
      owned.capture "lineEnd" = some "5" ∧
      (∀ name, name ≠ "lineEnd" → owned.capture name = groups.capture name) ∧
      (ofGroups groups none).range = .ok ⟨⟨2, 0⟩, ⟨2, 0⟩⟩ ∧
      (ofGroups owned none).range = .ok ⟨⟨2, 0⟩, ⟨4, 0⟩⟩ := by
  intro groups other owned
  have halike : groups.LookAlike other :=
    { type := rfl, message := rfl, others := by decide +kernel }
  have hnone : ∀ side, nonempty? (groups.capture (ownGroup side .line)) = none := by
    intro side
    cases side <;> rfl
  have hothers : ∀ name, name ≠ "lineEnd" → owned.capture name = groups.capture name := by
    intro name hname
    rw [GroupMap.capture, GroupMap.capture, List.lookup_cons, beq_false_of_ne hname]
  have hrange : (ofGroups groups none).range = .ok ⟨⟨2, 0⟩, ⟨2, 0⟩⟩ :=
    ok_of_toOption (by decide +kernel)
  have hfive : Coordinate.normalize (.text "5") = .ok 4 := ok_of_toOption (by decide +kernel)
  obtain ⟨hcongr, hsame, hown⟩ := fields_from_nine_groups
  obtain ⟨-, -, hreturns⟩ := hown groups owned none .stop .line "5" (by decide) rfl hothers
  exact ⟨halike, hcongr groups other none halike, hnone, (hsame groups none .line hnone).1, rfl,
    hothers, hrange, hreturns _ _ hrange hfive⟩

end MatchFields

end

end Linting
