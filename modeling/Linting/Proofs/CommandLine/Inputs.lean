import Linting.Proofs.CommandLine.Outcomes
import Linting.Proofs.Diagnostic.Collection
import Linting.Proofs.Pattern.Walk
import Linting.Proofs.Text.Newline

/-! The two inputs of a command that reads the output of a tool. Bytes in a file are read as the
same bytes on the input with their line ends unified; a pattern may tell the two apart exactly if
there is a carriage return among the bytes. -/

namespace Linting.CommandLine
open Text
set_option autoImplicit false

/-! ## Reading a file -/

def Surroundings.sourceBytes (s : Surroundings) (source : String) :
    Except SourceFault (List UInt8) := do
  s.fileBytes (← s.expandHome (Path.ofString source))

section

variable {s : Surroundings} {source : String} {bytes : List UInt8}

theorem fileText_eq (h : s.sourceBytes source = .ok bytes) :
    s.fileText source = .ok (decodeLoosely (unifyEnds 0x0D 0x0A bytes)) := by
  obtain ⟨p, hp, hbytes⟩ := bind_eq_ok_iff.mp h
  rw [Surroundings.fileText, hp]
  change (do
    let bytes ← s.fileBytes p
    return String.ofList (unifyNewlines (decodeLoosely bytes).toList)) = _
  rw [hbytes, ← String.ofList_toList (s := decodeLoosely _), decodeLoosely_unifyEnds]
  rfl

/-- A file is read as the input is that holds its bytes with their line ends unified. -/
theorem ParseCommand.run_source (h : s.sourceBytes source = .ok bytes) (c : ParseCommand) :
    { c with source := some source }.run s =
      { c with source := none }.run { s with input := unifyEnds 0x0D 0x0A bytes } := by
  rw [run]
  dsimp only
  rw [fileText_eq h]
  rfl

end

/-- Surroundings with some bytes in a file and some on the input. -/
def Surroundings.holding (bytes input : List UInt8) : Surroundings :=
  { tree := { entries := [(["f"], .file bytes false)] }, cwd := [], literal := fun _ => .ok ()
    input }

theorem sourceBytes_holding (bytes input : List UInt8) :
    (Surroundings.holding bytes input).sourceBytes "f" = .ok bytes := by
  let tree : FileTree := { entries := [(["f"], .file bytes false)] }
  have hpath : Path.ofString "f" = ⟨.none, ["f"]⟩ := by decide +kernel
  have hhome : (Surroundings.holding bytes input).expandHome ⟨.none, ["f"]⟩ = .ok ⟨.none, ["f"]⟩ :=
    if_pos (by decide +kernel)
  have hentry : tree.entryAt ["f"] = some (.file bytes false) := rfl
  have hresolve : tree.resolve [] ⟨.none, ["f"]⟩ = ["f"] := by
    simp [FileTree.resolve, FileTree.follow, hentry, Path.isAbsolute]
  have hwalk : tree.walk FileTree.linkLimit [] ["f"] = .ok ["f"] := rfl
  have hfind : tree.find [] "/f" = .ok (["f"], .file bytes false) := by
    have hnull : Path.hasNull "/f" = false := by decide +kernel
    have hofString : Path.ofString "/f" = ⟨.slash, ["f"]⟩ := by decide +kernel
    have hasks : FileTree.asksDirectory "/f" = false := by decide +kernel
    have hlocate : tree.locate [] "/f" = .ok ["f"] := by
      have hlong : ¬ FileTree.isTooLong tree.limits.path ("/f".utf8ByteSize + 1) = true :=
        Bool.false_ne_true
      have hfault : tree.textFault? "/f" = none := by
        rw [FileTree.textFault?, hnull, if_neg Bool.false_ne_true, if_neg (by decide +kernel),
          if_neg hlong]
      have hstart : FileTree.startOf [] ⟨.slash, ["f"]⟩ = [] := rfl
      rw [FileTree.locate, hfault, hofString]
      dsimp only
      rw [hstart, hwalk]
      dsimp only
      rw [hasks, hentry]
    rw [FileTree.find, hlocate]
    dsimp only
    rw [hentry]
  have htext : (⟨.slash, ["f"]⟩ : Path).toString = "/f" := by decide +kernel
  have hplace : tree.find [] (⟨.slash, tree.resolve [] ⟨.none, ["f"]⟩⟩ : Path).toString =
      .ok (["f"], .file bytes false) := by
    rw [hresolve, htext, hfind]
  rw [Surroundings.sourceBytes, hpath, hhome]
  change (Surroundings.holding bytes input).fileBytes ⟨.none, ["f"]⟩ = _
  rw [Surroundings.fileBytes]
  dsimp only [Surroundings.holding]
  rw [hplace]

/-! ## A pattern that tells line ends apart -/

/-- The command that looks for carriage returns. -/
def returns : ParseCommand := { pattern := "\\r", json := true }

def returnPattern : Pattern := ⟨"\\r", "g", ⟨.char 0x0D, { ascii := true }, 0, []⟩, false⟩

theorem run_returnPattern (text : Array Char) (position : Nat) :
    let start := returnPattern.expression.freshCursor position
    returnPattern.expression.root.run text returnPattern.expression.flags start some =
      if text[position]? = some '\r' then some (start.moveTo (position + 1)) else none := by
  intro start
  have hchar : Regex.charAt? text start.position = text[position]?.map Char.toNat := rfl
  change Regex.passOne text (Regex.charHolds { ascii := true } 0x0D) start some = _
  rw [Regex.passOne, hchar]
  cases text[position]? with
  | none => rfl
  | some c =>
    rw [Option.map_some]
    dsimp only
    by_cases hc : c = '\r'
    · rw [hc]
      rfl
    · have hholds : Regex.charHolds { ascii := true } 0x0D c.toNat = false :=
        decide_eq_false fun h => hc (Char.toNat_inj.mp h)
      rw [hholds, if_neg Bool.false_ne_true, if_neg fun h => hc (Option.some.inj h)]

theorem matchAt?_returnPattern (text : Array Char) (position : Nat) :
    returnPattern.expression.matchAt? text position =
      if text[position]? = some '\r' then some ⟨position, position + 1, []⟩ else none := by
  rw [Regex.Expression.matchAt?, run_returnPattern]
  by_cases h : text[position]? = some '\r'
  · rw [if_pos h, if_pos h]
    rfl
  · rw [if_neg h, if_neg h]

theorem matchesIn_returnPattern_eq_nil_iff {data : String} :
    returnPattern.matchesIn (Pattern.textOf data) = [] ↔ '\r' ∉ data.toList := by
  have hget (place : Nat) : (Pattern.textOf data)[place]? = data.toList[place]? :=
    List.getElem?_toArray ..
  constructor
  · intro h hmem
    obtain ⟨place, hplace⟩ := List.getElem?_of_mem hmem
    have hmatch := matchAt?_returnPattern (Pattern.textOf data) place
    rw [hget, if_pos hplace] at hmatch
    have hle : place ≤ (Pattern.textOf data).size := by
      have hlt := (List.getElem?_eq_some_iff.mp hplace).1
      exact Nat.le_of_lt hlt
    have hfound : _ ∈ returnPattern.matchesIn (Pattern.textOf data) ∨
        ∃ other ∈ returnPattern.matchesIn (Pattern.textOf data), _ :=
      Pattern.matchesFrom_complete rfl (Regex.Expression.searchesLeftmost_of_startSet rfl)
        (Nat.le_refl _) (Nat.zero_le _) hle hmatch
    rw [h] at hfound
    rcases hfound with hm | ⟨other, hother, -⟩
    · cases hm
    · cases hother
  · intro h
    by_contra hne
    obtain ⟨m, hm⟩ := List.exists_mem_of_ne_nil _ hne
    obtain ⟨-, -, -, hmatch⟩ := Pattern.matchesFrom_found _ hm
    rw [matchAt?_returnPattern, hget] at hmatch
    split at hmatch
    · next hc => exact h (List.mem_of_getElem? hc)
    · cases hmatch

theorem outcomeFor_returns (s : Surroundings) (data : String) :
    (returns.outcomeFor s data).status = if '\r' ∈ data.toList then 1 else 0 := by
  have hcompile : Pattern.compile "\\r" "" = .ok returnPattern :=
    ok_of_toOption (by decide +kernel)
  have hds : diagnosticsIn returnPattern data none =
      .ok ((returnPattern.matchesIn (Pattern.textOf data)).map fun _ => {}) := by
    rw [diagnosticsIn, mapM_eq_ok_iff, List.forall₂_map_right_iff, List.forall₂_same]
    exact fun _ _ => rfl
  have hparse : parse data returns.pattern
      { flags := returns.flags, filePath := returns.filePath } =
      .ok ((returnPattern.matchesIn (Pattern.textOf data)).map fun _ => {}) :=
    parse_eq_ok_iff.mpr ⟨returnPattern, hcompile, hds⟩
  rw [ParseCommand.outcomeFor_status, hparse, statusFor]
  by_cases h : '\r' ∈ data.toList
  · rw [if_pos h, if_neg]
    rw [List.map_eq_nil_iff, matchesIn_returnPattern_eq_nil_iff, not_not]
    exact h
  · rw [if_neg h, if_pos]
    rw [List.map_eq_nil_iff, matchesIn_returnPattern_eq_nil_iff]
    exact h

/-! ## Files and the input -/

/-- A file and the input are read alike if they hold the same bytes and there is no carriage return
among them, and otherwise only with the line ends of the file unified. -/
theorem source_agrees_with_input_iff {s : Surroundings} {source : String} {bytes : List UInt8}
    (h : s.sourceBytes source = .ok bytes) :
    (∀ (c : ParseCommand) (args args' : List String),
      Command.ofArguments args = .ok (.parse { c with source := some source }) →
      Command.ofArguments args' = .ok (.parse { c with source := none }) →
      run s args = run { s with input := unifyEnds 0x0D 0x0A bytes } args') ∧
    ((∀ c : ParseCommand, { c with source := some source }.run s =
      { c with source := none }.run { s with input := bytes }) ↔ 0x0D ∉ bytes) := by
  refine ⟨fun c args args' hargs hargs' => ?_, fun hagree hmem => ?_, fun hnone c => ?_⟩
  · rw [run, run, hargs, hargs']
    exact ParseCommand.run_source h c
  · have hstatus := congrArg Outcome.status (hagree returns)
    rw [ParseCommand.run_source h] at hstatus
    change (returns.outcomeFor _ (decodeLoosely _)).status =
      (returns.outcomeFor _ (decodeLoosely _)).status at hstatus
    rw [outcomeFor_returns, outcomeFor_returns, if_pos (return_mem_decodeLoosely_iff.mpr hmem),
      if_neg] at hstatus
    · cases hstatus
    · rw [return_mem_decodeLoosely_iff]
      exact not_mem_unifyEnds (by decide) bytes
  · rw [ParseCommand.run_source h, unifyEnds_of_not_mem hnone]

/-- Two lines, one of which ends with a return and a feed. -/
theorem source_agrees_with_input_lines :
    let s := Surroundings.holding [0x61, 0x0D, 0x0A, 0x62, 0x0A] []
    s.sourceBytes "f" = .ok [0x61, 0x0D, 0x0A, 0x62, 0x0A] ∧
      run s ["parse", "a$", "f", "--flags", "m"] =
        run { s with input := [0x61, 0x0A, 0x62, 0x0A] } ["parse", "--flags=m", "a$"] := by
  intro s
  have hbytes := sourceBytes_holding [0x61, 0x0D, 0x0A, 0x62, 0x0A] []
  exact ⟨hbytes, (source_agrees_with_input_iff hbytes).1 { pattern := "a$", flags := "m" } _ _
    (by decide +kernel) (by decide +kernel)⟩

/-- The same bytes in a file and on the input, and a pattern that tells them apart. -/
theorem source_disagrees_with_input_return :
    let s := Surroundings.holding [0x61, 0x0D] [0x61, 0x0D]
    s.sourceBytes "f" = .ok s.input ∧
      (run s ["parse", "\\r", "f", "--json"]).status = 0 ∧
      (run s ["parse", "\\r", "--json"]).status = 1 := by
  intro s
  have hbytes : s.sourceBytes "f" = .ok s.input := sourceBytes_holding _ _
  have hsource : Command.ofArguments ["parse", "\\r", "f", "--json"] =
      .ok (.parse { returns with source := some "f" }) := by decide +kernel
  have hinput : Command.ofArguments ["parse", "\\r", "--json"] = .ok (.parse returns) := by
    decide +kernel
  refine ⟨hbytes, ?_, ?_⟩
  · rw [run, hsource]
    change ({ returns with source := some "f" }.run s).status = 0
    rw [ParseCommand.run_source hbytes]
    change (returns.outcomeFor _ (decodeLoosely _)).status = 0
    rw [outcomeFor_returns, if_neg]
    rw [return_mem_decodeLoosely_iff]
    exact not_mem_unifyEnds (by decide) s.input
  · rw [run, hinput]
    change (returns.outcomeFor s (decodeLoosely s.input)).status = 1
    rw [outcomeFor_returns, if_pos]
    rw [return_mem_decodeLoosely_iff]
    decide

end Linting.CommandLine
