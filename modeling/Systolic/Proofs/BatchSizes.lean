import Systolic.Command.Line
import Systolic.Proofs.Layers
import Systolic.Proofs.Leftovers
import Systolic.Proofs.Products

namespace Systolic

open Sequencer Program

/-- Why a batch has no place in the usual layout: its results would lie over its inputs' end, or the one or the other
would leave a window of 16 MiB, or the length of the inputs has no 64 bits. -/
inductive Misplaced : Nat → Failure → Prop
  | overlap {n : Nat} (least : 193 ≤ n) (most : n ≤ 65472) : Misplaced n (.regionOverlap "inputs" "outputs")
  | outputs {n : Nat} (least : 65473 ≤ n) (most : n ≤ 262080) : Misplaced n (.outOfBounds 0x4000 (n * 256) 0x1000000)
  | inputs {n : Nat} (least : 262081 ≤ n) (most : n < 2 ^ 58) : Misplaced n (.outOfBounds 0x1000 (n * 64) 0x1000000)
  | overlong {n : Nat} (least : 2 ^ 58 ≤ n) : Misplaced n (.invalidArgument (.regionLength "inputs"))

theorem Misplaced.some {n : Nat} {e : Failure} (misplaced : Misplaced n e) : 193 ≤ n := by
  cases misplaced <;> omega

theorem exists_misplaced {n : Nat} (many : 193 ≤ n) : ∃ e, Misplaced n e := by
  by_cases overlap : n ≤ 65472
  · exact ⟨_, .overlap many overlap⟩
  by_cases outputs : n ≤ 262080
  · exact ⟨_, .outputs (by omega) outputs⟩
  by_cases inputs : n < 2 ^ 58
  · exact ⟨_, .inputs (by omega) inputs⟩
  exact ⟨_, .overlong (by omega)⟩

namespace Layout

/-- Where a batch goes by the usual layout. -/
def spread (n : Nat) : Placement :=
  ⟨⟨"weights", 0, 64, 0x20000000⟩, ⟨"inputs", 0x1000, n * 64, 0x20001000⟩, ⟨"outputs", 0x4000, n * 256, 0x20004000⟩⟩

variable {n : Nat}

theorem fits_weights : (spread n).weights.Fits 0x1000000 0x20000000 default.weights 1 64 := by
  have address : (0x20000000 : UInt32).toNat = 0x20000000 := rfl
  have size : UInt32.size = 0x100000000 := rfl
  refine ⟨rfl, rfl, ?_, rfl, ?_⟩
  · dsimp only [spread]
    omega
  · dsimp only [spread]
    omega

theorem fits_inputs (most : n ≤ 262080) : (spread n).inputs.Fits 0x1000000 0x20000000 default.inputs n 64 := by
  have base : (0x20000000 : UInt32).toNat = 0x20000000 := rfl
  have address : (0x20001000 : UInt32).toNat = 0x20001000 := rfl
  have size : UInt32.size = 0x100000000 := rfl
  refine ⟨rfl, rfl, ?_, ?_, ?_⟩
  all_goals
    dsimp only [spread]
    omega

theorem fits_outputs (most : n ≤ 65472) : (spread n).outputs.Fits 0x1000000 0x20000000 default.outputs n 256 := by
  have base : (0x20000000 : UInt32).toNat = 0x20000000 := rfl
  have address : (0x20004000 : UInt32).toNat = 0x20004000 := rfl
  have size : UInt32.size = 0x100000000 := rfl
  refine ⟨rfl, rfl, ?_, ?_, ?_⟩
  all_goals
    dsimp only [spread]
    omega

theorem place_spread (some : n ≠ 0) (most : n ≤ 192) : default.place 0x1000000 0x20000000 1 n = .ok (spread n) := by
  refine place_of_fits ⟨by decide, some⟩ ⟨rfl, rfl, rfl⟩
    ⟨fits_weights, fits_inputs (by omega), fits_outputs (by omega), .inr ?_, .inr ?_, .inr ?_⟩
  all_goals
    dsimp only [spread, Region.stop]
    omega

/-- The weights are always in their place and apart from all the rest. A batch that is misplaced is so by its inputs or by
its results. -/
theorem place_misplaced {e : Failure} (misplaced : Misplaced n e) :
    default.place 0x1000000 0x20000000 1 n = .error e := by
  have many := misplaced.some
  have wide : UInt64.size = 2 ^ 64 := rfl
  have weights : Region.place 0x1000000 0x20000000 "weights" default.weights 1 64 = .ok (spread n).weights :=
    Region.place_of_fits rfl fits_weights
  have inputs : n ≤ 262080 →
      Region.place 0x1000000 0x20000000 "inputs" default.inputs n 64 = .ok (spread n).inputs :=
    fun most => Region.place_of_fits rfl (fits_inputs most)
  have outputs : n ≤ 65472 →
      Region.place 0x1000000 0x20000000 "outputs" default.outputs n 256 = .ok (spread n).outputs :=
    fun most => Region.place_of_fits rfl (fits_outputs most)
  have first : (spread n).weights.checkApart (spread n).inputs = .ok () :=
    Region.check_of_apart (.inr (show 64 ≤ 0x1000 by decide))
  have second : (spread n).weights.checkApart (spread n).outputs = .ok () :=
    Region.check_of_apart (.inr (show 64 ≤ 0x4000 by decide))
  unfold place
  rw [if_neg (by omega), except_bind_of_ok _ weights]
  cases misplaced with
  | overlap _ most =>
    have meet : (spread n).inputs.checkApart (spread n).outputs = .error (.regionOverlap "inputs" "outputs") := by
      refine Region.check_of_overlap ⟨?_, ?_⟩
      all_goals
        dsimp only [spread, Region.stop]
        omega
    rw [except_bind_of_ok _ (inputs (by omega)), except_bind_of_ok _ (outputs most), except_bind_of_ok _ first,
      except_bind_of_ok _ second]
    exact except_bind_of_error _ meet
  | outputs _ most =>
    rw [except_bind_of_ok _ (inputs most)]
    exact except_bind_of_error _ (Region.place_outside (by omega) (show 0x1000000 < 0x4000 + n * 256 by omega))
  | inputs _ most =>
    exact except_bind_of_error _ (Region.place_outside (by omega) (show 0x1000000 < 0x1000 + n * 64 by omega))
  | overlong least => exact except_bind_of_error _ (Region.place_overlong (by omega))

end Layout

theorem PollLimit.settle_ready {limit : PollLimit} (nonzero : limit ≠ .attempts 0) (clock : Clock) :
    limit.settle clock true = .ready 1 :=
  if_pos ⟨rfl, PollLimit.polls_pos nonzero clock⟩

namespace WaitReport

/-- The reports of a benchmark on a board without faults: every wait is over at the first poll. -/
def cleanReset : WaitReport :=
  ⟨.reset, [⟨.dma (.stream .read), .ready 1⟩, ⟨.dma (.stream .write), .ready 1⟩, ⟨.sequencer, .ready 1⟩]⟩

def cleanLoad : WaitReport := ⟨.loadWeights, [⟨.dma (.stream .read), .ready 1⟩, ⟨.sequencer, .ready 1⟩]⟩

def cleanFinish : WaitReport := ⟨.execute, [⟨.dma (.stream .write), .ready 1⟩, ⟨.sequencer, .ready 1⟩]⟩

end WaitReport

theorem Faults.reports_none {limit : PollLimit} (nonzero : limit ≠ .attempts 0) (clocks : Awaited → Clock) :
    Faults.none.resetReport limit clocks = .cleanReset ∧ Faults.none.loadReport limit clocks = .cleanLoad ∧
      Faults.none.finishReport limit clocks = .cleanFinish := by
  have ready (awaited : Awaited) : limit.settle (clocks awaited) true = .ready 1 := PollLimit.settle_ready nonzero _
  refine ⟨?reset, ?load, ?finish⟩
  case reset =>
    show WaitReport.mk _ [⟨_, limit.settle _ true⟩, ⟨_, limit.settle _ true⟩, ⟨_, limit.settle _ true⟩] = _
    rw [ready, ready, ready]
    rfl
  all_goals
    show WaitReport.mk _ [⟨_, limit.settle _ true⟩, ⟨_, limit.settle _ true⟩] = _
    rw [ready, ready]
    rfl

theorem Command.lines_clean : [WaitReport.cleanReset, .cleanLoad, .cleanFinish].flatMap phaseLines =
    ["  session reset: ok (3 polls)", "  weight load  : ok (2 polls)", "  execution    : ok (2 polls)"] := by decide

namespace Benchmark

/-- The usual benchmark of a batch of another size. -/
def Plan.ofBatch (n : Nat) : Plan := { default with batch := n }

/-- What is found of a batch that comes out right. -/
def Report.clean (n : Nat) : Report := ⟨n, [.cleanReset, .cleanLoad, .cleanFinish], ⟨64 * n, 0, [], none⟩⟩

end Benchmark

namespace Command

/-- The first line of whatever is done on a model. -/
def title (p : Profile) : String := s!"Profile      : {p.name} (simulated)"

/-- What is printed under it of a batch that comes out right. There is a speedup if there is a time to divide by. -/
def passLines (pace : Pace) (n : Nat) : List String :=
  let ratio := Text.twoPlaces (Float.ofNat pace.host / Float.ofNat pace.board)
  [s!"Batch        : {n} matrices", "  session reset: ok (3 polls)", "  weight load  : ok (2 polls)",
    "  execution    : ok (2 polls)", "CPU time     : " ++ Text.duration pace.host,
    "NPU time     : " ++ Text.duration pace.board, "Speedup      : " ++ if 0 < pace.board then ratio ++ "×" else "n/a",
    s!"Verified     : {64 * n} elements, {0} mismatches", "PASS"]

/-- How a command ends that gets into trouble under its title. -/
def stopped (shell : Shell) (p : Profile) (trouble : Trouble) : Ending := ⟨1, [title p], shell.word trouble⟩

variable {shell : Shell} {pace : Pace} {args : List String} {o : Options} {lookup : String → Option String}
  {s : Settings} {n : Nat}

theorem bench_clean (pace : Pace) (n : Nat) :
    verdict (benchLines pace (.clean n)) (Benchmark.Report.clean n).passed "benchmark FAILED" =
      ⟨passLines pace n, none⟩ := by
  have passed : (Benchmark.Report.clean n).passed = true := rfl
  have phases : (Benchmark.Report.clean n).phases.flatMap phaseLines = _ := lines_clean
  rw [verdict, if_pos passed, benchLines, phases, timeLines, Benchmark.Report.speedup, passLines]
  by_cases time : 0 < pace.board
  · rw [if_pos ⟨passed, time⟩, if_pos time]
    rfl
  · rw [if_neg (fun both => time both.2), if_neg time]
    rfl

theorem onModel_eq {α : Type} {check : SequencerM α} {timing : Timing} {r : Except Failure α} {s' : Sequencer}
    {d' : Device} {j' : Journal}
    (run : (s.sequencer.perform check).runOn (Device.board timing) (.ofProfile s.profile) .empty =
      ⟨some (r, s'), d', j'⟩) :
    onModel timing s check = r := by
  have ran : (check.run.run s.sequencer).runOn (Device.board timing) (.ofProfile s.profile) .empty =
      ⟨some (r, s'), d', j'⟩ := run
  rw [onModel, ran]

theorem bench_eq (nonzero : n ≠ 0) :
    bench pace s n = match onModel pace.timing s (Benchmark.run s.profile.sharedWindow.span (.ofBatch n)) with
      | .ok report => verdict (benchLines pace report) report.passed "benchmark FAILED"
      | .error f => ⟨[], some (.during "benchmark setup" f)⟩ :=
  if_neg nonzero

theorem run_bench (line : shell.read args = .ok (o, .bench n)) (simulated : o.simulate = true)
    (made : settings o lookup = .ok s) :
    run shell pace args lookup = match (bench pace s n).trouble with
      | some trouble => ⟨1, title s.profile :: (bench pace s n).lines, shell.word trouble⟩
      | none => ⟨0, title s.profile :: (bench pace s n).lines, ""⟩ := by
  rw [run, line]
  dsimp only [perform]
  rw [made]
  dsimp only
  rw [if_pos simulated]
  rfl

/-- Settings that are made for a command are for a board that there is, and leave room for a poll. -/
theorem settings_sound (made : settings o lookup = .ok s) : s.profile ∈ Profile.all ∧ s.limit ≠ .attempts 0 := by
  obtain ⟨environment, options, sound, given, rfl⟩ := settings_ok.mp made
  have shipped : ∀ {name : Option String} {asked : Option Profile} {p : Profile}, Layer.Names name asked →
      p ∈ Profile.all → asked.getD p ∈ Profile.all := by
    intro name asked p names among
    cases names with
    | unset => exact among
    | shipped among' => exact among'
  obtain ⟨_, _, -, -, limits⟩ := sound.limit
  refine ⟨shipped given.profile (shipped sound.profile (by decide)), ?_⟩
  exact given.limit.getD_ne_zero (limits.getD_ne_zero (by decide))

theorem window_of_shipped : ∀ p ∈ Profile.all, p.sharedWindow.span = 0x1000000 ∧ p.busBase = 0x20000000 := by decide

section Sizes

variable (made : settings o lookup = .ok s)
include made

/-- The regions of a batch of any size, on the board of any settings. -/
theorem place_of_settings (n : Nat) : (Benchmark.Plan.ofBatch n).layout.place s.profile.sharedWindow.span
    s.sequencer.profile.busBase 1 (Benchmark.Plan.ofBatch n).batch = Layout.default.place 0x1000000 0x20000000 1 n := by
  obtain ⟨span, base⟩ := window_of_shipped s.profile (settings_sound made).1
  have sequencer : s.sequencer.profile = s.profile := rfl
  rw [sequencer, span, base]
  rfl

theorem bench_passes {pair : Dispatchers} (streaming : s.profile.dispatchers = some pair) (nonzero : n ≠ 0)
    (most : n ≤ 192) : bench pace s n = ⟨passLines pace n, none⟩ := by
  obtain ⟨shipped, polled⟩ := settings_sound made
  have streams := Profile.streams_of_shipped shipped streaming
  have driven : Driven s.profile s.limit .none s.sequencer (.ofProfile s.profile) :=
    ⟨rfl, rfl, rfl, rfl, UInt32.zero_and⟩
  have placed := (place_of_settings made n).trans (Layout.place_spread nonzero most)
  have whole : (Device.ofProfile s.profile).memory.size = s.profile.sharedWindow.span := rfl
  obtain ⟨report, _, _, _, ran, resets, loads, ends, rfl⟩ :=
    Benchmark.ensures_run shipped streams driven rfl whole placed pace.timing .empty
  have reset := (Faults.reports_none polled resets).1
  have load := (Faults.reports_none polled loads).2.1
  have finish := (Faults.reports_none polled ends).2.2
  rw [bench_eq nonzero, onModel_eq ran, reset, load, finish]
  exact bench_clean pace n

theorem bench_bare (bare : s.profile.dispatchers = none) (nonzero : n ≠ 0) (most : n ≤ 192) :
    bench pace s n = ⟨[], some (.during "benchmark setup" (.unsupported s.profile.name "streaming dispatchers"))⟩ := by
  have placed := (place_of_settings made n).trans (Layout.place_spread nonzero most)
  have accepts : (Device.board pace.timing).Accepts := ⟨fun _ _ => rfl, fun _ _ _ => rfl⟩
  obtain ⟨_, _, _, ran, -⟩ := Benchmark.bare (.ofBatch n) placed bare accepts (Device.ofProfile s.profile) .empty
  rw [bench_eq nonzero, onModel_eq ran]
  rfl

theorem bench_misplaced {e : Failure} (misplaced : Misplaced n e) :
    s.sequencer.perform (Benchmark.run s.profile.sharedWindow.span (.ofBatch n)) = done (.error e, s.sequencer) ∧
      bench pace s n = ⟨[], some (.during "benchmark setup" e)⟩ := by
  have many := misplaced.some
  have refused : s.sequencer.perform (Benchmark.run s.profile.sharedWindow.span (.ofBatch n)) =
      done (.error e, s.sequencer) :=
    Benchmark.refused ((place_of_settings made n).trans (Layout.place_misplaced misplaced))
  have ran : (s.sequencer.perform (Benchmark.run s.profile.sharedWindow.span (.ofBatch n))).runOn
      (Device.board pace.timing) (.ofProfile s.profile) .empty =
        ⟨some (.error e, s.sequencer), .ofProfile s.profile, .empty⟩ := by
    rw [refused]
    rfl
  refine ⟨refused, ?_⟩
  rw [bench_eq (by omega), onModel_eq ran]

end Sizes

/-- A benchmark on a model, with whatever settings and at whatever pace: it passes on a board that streams just when its
batch has a place in the usual layout, and then all of its results are right. Any other batch is turned down, by the
first check that it does not pass, before anything is asked of the board. The oldest board cannot stream. -/
theorem bench_sizes (shell : Shell) (pace : Pace) {args : List String} {o : Options} {n : Nat}
    {lookup : String → Option String} {s : Settings} (line : shell.read args = .ok (o, .bench n))
    (simulated : o.simulate = true) (made : settings o lookup = .ok s) :
    let ending := run shell pace args lookup
    let refused (e : Failure) := stopped shell s.profile (.during "benchmark setup" e)
    let untouched (e : Failure) :=
      s.sequencer.perform (Benchmark.run s.profile.sharedWindow.span (.ofBatch n)) = done (.error e, s.sequencer)
    (∀ pair, s.profile.dispatchers = some pair → (ending.exit = 0 ↔ 1 ≤ n ∧ n ≤ 192)) ∧
    (1 ≤ n → n ≤ 192 →
      (∀ pair, s.profile.dispatchers = some pair → ending = ⟨0, title s.profile :: passLines pace n, ""⟩) ∧
      (s.profile = .niosLegacy → ending = refused (.unsupported "nios-legacy" "streaming dispatchers"))) ∧
    (n = 0 → ending = stopped shell s.profile (.failed "--batch must be at least 1") ∧
      untouched (.invalidArgument .emptyRegions)) ∧
    (193 ≤ n → ∃ e, Misplaced n e) ∧
    ∀ e, Misplaced n e → ending = refused e ∧ untouched e := by
  intro ending refused untouched
  have comes : ending = _ := run_bench line simulated made
  have passes : ∀ pair, s.profile.dispatchers = some pair → 1 ≤ n → n ≤ 192 →
      ending = ⟨0, title s.profile :: passLines pace n, ""⟩ := by
    intro pair streaming least most
    rw [comes, bench_passes made streaming (by omega) most]
  have none : n = 0 → ending = stopped shell s.profile (.failed "--batch must be at least 1") := by
    rintro rfl
    rw [comes]
    rfl
  have misplaced : ∀ e, Misplaced n e → ending = refused e ∧ untouched e := by
    intro e misplaced
    obtain ⟨still, stops⟩ := bench_misplaced made misplaced
    exact ⟨by rw [comes, stops]; rfl, still⟩
  refine ⟨?sizes, ?placed, ?empty, fun many => exists_misplaced many, misplaced⟩
  case sizes =>
    intro pair streaming
    constructor
    · intro succeeds
      by_contra outside
      have failed : ending.exit = 1 := by
        by_cases zero : n = 0
        · rw [none zero]
          rfl
        · obtain ⟨e, why⟩ := exists_misplaced (n := n) (by omega)
          rw [(misplaced e why).1]
          rfl
      rw [failed] at succeeds
      nomatch succeeds
    · rintro ⟨least, most⟩
      rw [passes pair streaming least most]
  case placed =>
    intro least most
    refine ⟨fun pair streaming => passes pair streaming least most, ?_⟩
    intro legacy
    have bare : s.profile.dispatchers = .none := by
      rw [legacy]
      rfl
    rw [comes, bench_bare made bare (by omega) most, legacy]
    show stopped _ _ _ = stopped shell s.profile _
    rw [legacy]
    rfl
  case empty =>
    intro zero
    refine ⟨none zero, Benchmark.refused ?_⟩
    rw [place_of_settings made, zero]
    rfl

namespace Line

/-- A number is not taken for an option. -/
theorem isDashed_numeral {value : String} (numeral : Text.Numeral value.toList n) : isDashed value = false := by
  have first : value.toList.head? ≠ some '-' := by
    generalize value.toList = text at numeral
    cases numeral with
    | plain _ all =>
      intro dash
      exact absurd (all '-' (List.mem_of_mem_head? dash)) (by decide)
    | signed => simp
  rw [isDashed, Bool.and_eq_false_iff]
  exact .inr (beq_eq_false_iff_ne.mpr first)

/-- A batch may have any size that there are 64 bits for. -/
theorem read_bench (small : n < 2 ^ 64) :
    Line.shell.read ["--simulate", "bench", "--batch", n.repr] = .ok (⟨none, true, none⟩, .bench n) := by
  have numeral := Text.numeral_repr n
  have plain := isDashed_numeral numeral
  have read : number? n.repr = some n := by
    rw [number?, Text.readNumeral_ok.mpr ⟨numeral, small⟩]
    rfl
  have added : Given.none.add? true "--batch" n.repr = some ⟨⟨none, false, none⟩, some n⟩ := by
    show (number? n.repr).map _ = _
    rw [read]
    rfl
  have earlier : readOptions true false .none ["--simulate", "bench", "--batch", n.repr] =
      .ok (⟨⟨none, true, none⟩, none⟩, ["bench", "--batch", n.repr]) := rfl
  have later : readOptions false ("bench" == "bench") .none ["--batch", n.repr] =
      .ok (⟨⟨none, false, none⟩, some n⟩, []) := by
    show (if isDashed n.repr then .error .refused
      else do readOptions false true (← orRefused (Given.none.add? true "--batch" n.repr)) []) = _
    rw [plain, added]
    rfl
  show (parse ["--simulate", "bench", "--batch", n.repr]).mapError Stop.ending = _
  unfold parse
  rw [except_bind_of_ok _ earlier]
  show (readOptions false ("bench" == "bench") .none ["--batch", n.repr] >>= _).mapError Stop.ending = _
  rw [except_bind_of_ok _ later]
  rfl

end Line

/-- The largest batch that has a place, with a single poll to each wait, and the smallest that has none, on the oldest
board by its name in the environment. The first one takes a while on the host and no time at all on the board. -/
theorem bench_192_passes :
    let pace : Pace := ⟨.steady 0, 1500, 0⟩
    let once : String → Option String := fun key => if key = Settings.budgetKey then some "1" else none
    let oldest : String → Option String := fun key => if key = Settings.profileKey then some "nios-legacy" else none
    run Line.shell pace ["--simulate", "bench", "--batch", "192"] once =
      ⟨0, title .hpsMsgdma :: passLines pace 192, ""⟩ ∧
    run Line.shell pace ["--simulate", "bench", "--batch", "193"] oldest =
      stopped Line.shell .niosLegacy (.during "benchmark setup" (.regionOverlap "inputs" "outputs")) := by
  intro pace once oldest
  have usual : settings ⟨none, true, none⟩ once = .ok ⟨.hpsMsgdma, .attempts 1, 1⟩ := by rfl
  have legacy : settings ⟨none, true, none⟩ oldest = .ok ⟨.niosLegacy, .default, 1⟩ := by rfl
  obtain ⟨-, placed, -⟩ := bench_sizes Line.shell pace (Line.read_bench (n := 192) (by decide)) rfl usual
  obtain ⟨-, -, -, -, misplaced⟩ := bench_sizes Line.shell pace (Line.read_bench (n := 193) (by decide)) rfl legacy
  exact ⟨(placed (by decide) (by decide)).1 _ rfl, (misplaced _ (.overlap (by decide) (by decide))).1⟩

end Command

end Systolic
