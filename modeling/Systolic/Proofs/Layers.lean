import Systolic.Command
import Systolic.Proofs.Accounting
import Systolic.Proofs.Checks
import Systolic.Proofs.Numerals
import Systolic.Proofs.Reports

namespace Systolic

/-- What may be put over settings. Where it has nothing they stay as they are. -/
structure Layer where
  profile : Option Profile
  limit : Option PollLimit
  settle : Option Nat

namespace Layer

def apply (layer : Layer) (s : Settings) : Settings :=
  ⟨layer.profile.getD s.profile, layer.limit.getD s.limit, layer.settle.getD s.settle⟩

/-- The board that a name asks for, if there is a name. -/
inductive Names : Option String → Option Profile → Prop
  | unset : Names none none
  | shipped {name : String} {p : Profile} (among : p ∈ Profile.all) (called : p.name = name) : Names (some name) (some p)

/-- The limit that a budget and a deadline ask for. There may not be both of them, and the budget must not be zero. -/
inductive Limits : Option Nat → Option Nat → Option PollLimit → Prop
  | unset : Limits none none none
  | budget {polls : Nat} (positive : polls ≠ 0) : Limits (some polls) none (some (.attempts polls))
  | deadline (millis : Nat) : Limits none (some millis) (some (.deadline millis))

/-- The number that a variable holds, if it is set. -/
inductive Holds (lookup : String → Option String) (key : String) : Option Nat → Prop
  | unset (absent : lookup key = none) : Holds lookup key none
  | number {value : String} {n : Nat} (set : lookup key = some value)
      (written : Text.Numeral (Text.trim value).toList n) (fits : n < 2 ^ 64) : Holds lookup key (some n)

/-- Variables that all make sense, and the layer that they make. -/
structure OfVariables (lookup : String → Option String) (layer : Layer) : Prop where
  profile : Names ((lookup Settings.profileKey).map Text.trim) layer.profile
  limit : ∃ budget deadline, Holds lookup Settings.budgetKey budget ∧ Holds lookup Settings.deadlineKey deadline ∧
    Limits budget deadline layer.limit
  settle : Holds lookup Settings.settleKey layer.settle

/-- Options that make sense, and the layer that they make. -/
structure OfOptions (o : Command.Options) (layer : Layer) : Prop where
  profile : Names o.profile layer.profile
  limit : Limits o.pollBudget none layer.limit
  settle : layer.settle = none

end Layer

theorem Profile.find?_eq_some {name : String} {p : Profile} : find? name = some p ↔ p ∈ all ∧ p.name = name := by
  constructor
  · intro found
    exact ⟨List.mem_of_find?_eq_some found, by simpa using List.find?_some found⟩
  · rintro ⟨among, rfl⟩
    simp only [all, List.mem_cons, List.not_mem_nil, or_false] at among
    rcases among with rfl | rfl | rfl <;> rfl

namespace Settings

open Layer

variable {s s' : Settings}

/-- The settings with the board of a name, if there is one. -/
def named (s : Settings) : Option String → Except Failure Settings
  | some name => s.withProfile name
  | none => .ok s

def limited (s : Settings) : Option Nat → Option Nat → Except Failure Settings
  | some _, some _ => .error (.invalidArgument .twoLimits)
  | some polls, none => s.withPollBudget polls
  | none, some millis => .ok { s with limit := .deadline millis }
  | none, none => .ok s

theorem withProfile_ok {name : String} :
    s.withProfile name = .ok s' ↔ ∃ p ∈ Profile.all, p.name = name ∧ s' = { s with profile := p } := by
  constructor
  · intro made
    unfold withProfile at made
    split at made
    · rename_i p found
      obtain ⟨among, called⟩ := Profile.find?_eq_some.mp found
      exact ⟨p, among, called, (Except.ok.inj made).symm⟩
    · nomatch made
  · rintro ⟨p, among, called, rfl⟩
    rw [withProfile, Profile.find?_eq_some.mpr ⟨among, called⟩]

theorem withPollBudget_ok {polls : Nat} :
    s.withPollBudget polls = .ok s' ↔ polls ≠ 0 ∧ s' = { s with limit := .attempts polls } := by
  unfold withPollBudget
  split <;> simp_all [eq_comm]

theorem named_ok {name : Option String} :
    s.named name = .ok s' ↔ ∃ p, Names name p ∧ s' = { s with profile := p.getD s.profile } := by
  constructor
  · intro made
    cases name with
    | none => exact ⟨none, .unset, (Except.ok.inj made).symm⟩
    | some name =>
      obtain ⟨p, among, called, same⟩ := withProfile_ok.mp made
      exact ⟨some p, .shipped among called, same⟩
  · rintro ⟨_, names, rfl⟩
    cases names with
    | unset => rfl
    | shipped among called => exact withProfile_ok.mpr ⟨_, among, called, rfl⟩

theorem limited_ok {budget deadline : Option Nat} :
    s.limited budget deadline = .ok s' ↔ ∃ l, Limits budget deadline l ∧ s' = { s with limit := l.getD s.limit } := by
  constructor
  · intro made
    cases budget with
    | none =>
      cases deadline with
      | none => exact ⟨none, .unset, (Except.ok.inj made).symm⟩
      | some millis => exact ⟨_, .deadline millis, (Except.ok.inj made).symm⟩
    | some polls =>
      cases deadline with
      | none =>
        obtain ⟨positive, same⟩ := withPollBudget_ok.mp made
        exact ⟨_, .budget positive, same⟩
      | some millis => nomatch made
  · rintro ⟨_, limits, rfl⟩
    cases limits with
    | unset => rfl
    | budget positive => exact withPollBudget_ok.mpr ⟨positive, rfl⟩
    | deadline millis => rfl

theorem number?_ok {lookup : String → Option String} {key : String} {n : Option Nat} :
    number? lookup key = .ok n ↔ Holds lookup key n := by
  constructor
  · intro made
    unfold number? at made
    split at made
    · rename_i absent
      obtain rfl := Except.ok.inj made
      exact .unset absent
    · rename_i value set
      split at made
      · rename_i m read
        obtain rfl := Except.ok.inj made
        obtain ⟨written, fits⟩ := Text.readNumeral_ok.mp read
        exact .number set written fits
      · nomatch made
  · rintro (absent | ⟨set, written, fits⟩)
    · rw [number?, absent]
    · rw [number?, set]
      dsimp only
      rw [Text.readNumeral_ok.mpr ⟨written, fits⟩]

/-- The variables are gone through in order, each when those before it make sense. -/
theorem withOverrides_eq (s : Settings) (lookup : String → Option String) : s.withOverrides lookup = (do
    let s ← s.named ((lookup profileKey).map Text.trim)
    let budget ← number? lookup budgetKey
    let deadline ← number? lookup deadlineKey
    let s ← s.limited budget deadline
    let settle ← number? lookup settleKey
    .ok { s with settle := settle.getD s.settle }) := by
  unfold withOverrides
  cases lookup profileKey
  all_goals
    refine bind_congr fun s => bind_congr fun budget => bind_congr fun deadline => ?_
    cases budget <;> cases deadline
  case none.some.some | some.some.some => rfl
  all_goals
    refine bind_congr fun s => bind_congr fun settle => ?_
    cases settle <;> rfl

/-- Variables are taken just when all of them make sense. -/
theorem withOverrides_ok {lookup : String → Option String} :
    s.withOverrides lookup = .ok s' ↔ ∃ layer : Layer, layer.OfVariables lookup ∧ s' = layer.apply s := by
  rw [withOverrides_eq]
  constructor
  · intro made
    obtain ⟨_, first, made⟩ := except_bind_ok.mp made
    obtain ⟨budget, budgetRead, made⟩ := except_bind_ok.mp made
    obtain ⟨deadline, deadlineRead, made⟩ := except_bind_ok.mp made
    obtain ⟨_, second, made⟩ := except_bind_ok.mp made
    obtain ⟨settle, settleRead, made⟩ := except_bind_ok.mp made
    obtain ⟨p, names, rfl⟩ := named_ok.mp first
    obtain ⟨l, limits, rfl⟩ := limited_ok.mp second
    obtain rfl := Except.ok.inj made
    exact ⟨⟨p, l, settle⟩, ⟨names, ⟨budget, deadline, number?_ok.mp budgetRead, number?_ok.mp deadlineRead, limits⟩,
      number?_ok.mp settleRead⟩, rfl⟩
  · rintro ⟨⟨p, l, settle⟩, ⟨names, ⟨budget, deadline, budgetHeld, deadlineHeld, limits⟩, settleHeld⟩, rfl⟩
    refine except_bind_ok.mpr ⟨_, named_ok.mpr ⟨p, names, rfl⟩, ?_⟩
    refine except_bind_ok.mpr ⟨budget, number?_ok.mpr budgetHeld, ?_⟩
    refine except_bind_ok.mpr ⟨deadline, number?_ok.mpr deadlineHeld, ?_⟩
    refine except_bind_ok.mpr ⟨_, limited_ok.mpr ⟨l, limits, rfl⟩, ?_⟩
    exact except_bind_ok.mpr ⟨settle, number?_ok.mpr settleHeld, rfl⟩

end Settings

/-- Options come after the variables, and are held to the same rules. -/
theorem Command.settings_ok {o : Options} {lookup : String → Option String} {s : Settings} :
    settings o lookup = .ok s ↔ ∃ environment options : Layer, environment.OfVariables lookup ∧ options.OfOptions o ∧
      s = options.apply (environment.apply .default) := by
  have staged : settings o lookup = (do
      let s ← (Settings.default.withOverrides lookup).mapError (.during "reading NPU_* environment")
      let s ← (s.named o.profile).mapError .failure
      (s.limited o.pollBudget none).mapError (.during "--poll-budget")) := by
    unfold settings
    cases o.profile <;> cases o.pollBudget <;> rfl
  rw [staged]
  constructor
  · intro made
    obtain ⟨_, first, made⟩ := except_bind_ok.mp made
    obtain ⟨_, second, third⟩ := except_bind_ok.mp made
    obtain ⟨environment, held, rfl⟩ := Settings.withOverrides_ok.mp (mapError_ok.mp first)
    obtain ⟨p, names, rfl⟩ := Settings.named_ok.mp (mapError_ok.mp second)
    obtain ⟨l, limits, rfl⟩ := Settings.limited_ok.mp (mapError_ok.mp third)
    exact ⟨environment, ⟨p, l, none⟩, held, ⟨names, limits, rfl⟩, rfl⟩
  · rintro ⟨environment, ⟨p, l, _⟩, held, ⟨names, limits, rfl⟩, rfl⟩
    refine except_bind_ok.mpr ⟨_, mapError_ok.mpr (Settings.withOverrides_ok.mpr ⟨environment, held, rfl⟩), ?_⟩
    refine except_bind_ok.mpr ⟨_, mapError_ok.mpr (Settings.named_ok.mpr ⟨p, names, rfl⟩), ?_⟩
    exact mapError_ok.mpr (Settings.limited_ok.mpr ⟨l, limits, rfl⟩)

/-- The settings that can be come to from the usual ones, in any number of steps. -/
inductive Settings.Built : Settings → Prop
  | default : Built .default
  | environment {s s' : Settings} (built : Built s) (lookup : String → Option String)
      (made : s.withOverrides lookup = .ok s') : Built s'
  | profile {s s' : Settings} (built : Built s) (name : String) (made : s.withProfile name = .ok s') : Built s'
  | budget {s s' : Settings} (built : Built s) (polls : Nat) (made : s.withPollBudget polls = .ok s') : Built s'

theorem Layer.Limits.getD_ne_zero {budget deadline : Option Nat} {l : Option PollLimit} (limits : Limits budget deadline l)
    {limit : PollLimit} (before : limit ≠ .attempts 0) : l.getD limit ≠ .attempts 0 := by
  cases limits with
  | unset => exact before
  | budget positive => exact fun zero => positive (PollLimit.attempts.inj zero)
  | deadline millis => nofun

theorem Settings.Built.limit_ne_zero {s : Settings} (built : s.Built) : s.limit ≠ .attempts 0 := by
  induction built with
  | default => decide
  | environment _ _ made ih =>
    obtain ⟨layer, ⟨-, ⟨_, _, -, -, limits⟩, -⟩, rfl⟩ := withOverrides_ok.mp made
    exact limits.getD_ne_zero ih
  | profile _ _ made ih =>
    obtain ⟨_, -, -, rfl⟩ := withProfile_ok.mp made
    exact ih
  | budget _ polls made ih =>
    obtain ⟨positive, rfl⟩ := withPollBudget_ok.mp made
    exact fun zero => positive (PollLimit.attempts.inj zero)

/-- What a sequencer can have become after calls on a board, whatever was done to the board in between. -/
inductive Sequencer.Becomes {σ : Type} (b : Board σ) (s : Sequencer) : Sequencer → Prop
  | start : Becomes b s s
  | call {q q' : Sequencer} (before : Becomes b s q) (c : Call) {r : Except Failure Answer} {t t' : σ} {j j' : Journal}
      (ran : (q.perform c.issue).runOn b t j = ⟨some (r, q'), t', j'⟩) : Becomes b s q'

theorem Call.limit_after {σ : Type} {b : Board σ} {q q' : Sequencer} {c : Call} {r : Except Failure Answer} {t t' : σ}
    {j j' : Journal} (ran : (q.perform c.issue).runOn b t j = ⟨some (r, q'), t', j'⟩) : q'.limit = q.limit := by
  rcases c.outcome q with ⟨e, nothing⟩ | ⟨ws, after, effect⟩
  · rw [nothing] at ran
    obtain ⟨gave, -, -⟩ := Run.mk.inj ran
    obtain ⟨-, rfl⟩ := Prod.mk.inj (Option.some.inj gave)
    rfl
  · obtain ⟨_, -, -, ended⟩ := Program.Issues.runOn effect.issues b t j
    rw [ran] at ended
    obtain ⟨-, a, same⟩ := ended _ rfl
    obtain ⟨-, rfl⟩ := Prod.mk.inj same
    exact effect.keeps.2

theorem Sequencer.Becomes.limit {σ : Type} {b : Board σ} {s q : Sequencer} (becomes : s.Becomes b q) :
    q.limit = s.limit := by
  induction becomes with
  | start => rfl
  | call _ _ ran ih => exact (Call.limit_after ran).trans ih

/-- Settings are made in layers. Variables are taken just when all of them make sense, and an option does not make up for
one that does not. What a layer has goes over what was there before, board, limit and settling each by itself,
and a limit of either kind over a limit of the other. However settings were come to, they leave room for a poll:
a sequencer with them, whatever it was used for before and however time passes, polls at least once in every wait of a
call. -/
theorem Settings.layered :
    (∀ (base : Settings) lookup s, base.withOverrides lookup = .ok s ↔
      ∃ layer : Layer, layer.OfVariables lookup ∧ s = layer.apply base) ∧
    (∀ o lookup s, Command.settings o lookup = .ok s ↔
      ∃ environment options : Layer, environment.OfVariables lookup ∧ options.OfOptions o ∧
        s = options.apply (environment.apply .default)) ∧
    ∀ s : Settings, s.Built → s.limit ≠ .attempts 0 ∧
      ∀ {σ : Type} (b : Board σ) (q : Sequencer), s.sequencer.Becomes b q →
        ∀ (c : Call) (phase : Phase) (t t' : σ) (j j' : Journal) (answer : Answer) (q' : Sequencer),
          c.phase? = some phase → (q.perform c.issue).runOn b t j = ⟨some (.ok answer, q'), t', j'⟩ →
            ∃ as waits, j'.toList = j.toList ++ as ∧ answer = .report ⟨phase, waits⟩ ∧
              Watched q.limit (c.watches q.profile) (reads as) waits ∧ ∀ w ∈ waits, 1 ≤ w.outcome.polls := by
  refine ⟨fun _ _ _ => withOverrides_ok, fun _ _ _ => Command.settings_ok, ?_⟩
  intro s built
  refine ⟨built.limit_ne_zero, ?_⟩
  intro σ b q becomes c phase t t' j j' answer q' reports ran
  have nonzero : q.limit ≠ .attempts 0 := by
    rw [becomes.limit]
    exact built.limit_ne_zero
  obtain ⟨as, journal, holds⟩ := Program.Shows.runOn (c.accounted q) ran
  obtain ⟨waits, watched, gave⟩ := (holds answer rfl).1 phase reports
  exact ⟨as, waits, journal, gave, watched, watched.polls_pos nonzero⟩

/-- A board with white space around its name, and a budget on the command line over a deadline in the environment. A
budget that is no number is in the way of it. The array of the board never rests, and is asked as often as it may be. -/
theorem Settings.layered_legacy :
    let lookup : String → Option String := fun key =>
      if key = profileKey then some " nios-legacy\n" else if key = deadlineKey then some "+250" else none
    let o : Command.Options := ⟨none, true, some 2⟩
    let s : Settings := ⟨.niosLegacy, .attempts 2, 1⟩
    Command.settings o lookup = .ok s ∧
    (∀ s', Command.settings o (fun key => if key = budgetKey then some "lots" else none) ≠ .ok s') ∧
    s.Built ∧ ∃ q' t' j',
      (s.sequencer.perform Call.reset.issue).runOn (Script.board (.steady 0)) ((Script.empty 0).preset 0x30004 [1])
          .empty =
        ⟨some (.ok (.report ⟨.reset, [⟨.sequencer, .expired 2⟩]⟩), q'), t', j'⟩ ∧
      Watched (.attempts 2) (Call.reset.watches .niosLegacy) (reads j'.toList) [⟨.sequencer, .expired 2⟩] := by
  intro lookup o s
  obtain ⟨overrides, options, polled⟩ := Settings.layered
  let environment : Layer := ⟨some .niosLegacy, some (.deadline 250), none⟩
  have written : Text.Numeral (Text.trim "+250").toList 250 := by
    have digits : (Text.trim "+250").toList = ['+', '2', '5', '0'] := by decide
    have all : ∀ c ∈ ['2', '5', '0'], Text.IsDigit c := by
      simp only [List.forall_mem_cons, List.not_mem_nil, false_imp_iff, implies_true]
      decide
    rw [digits]
    exact .signed (List.cons_ne_nil _ _) all
  have sound : environment.OfVariables lookup := by
    have named : (lookup profileKey).map Text.trim = some "nios-legacy" := by decide
    refine ⟨?_, ⟨none, some 250, .unset rfl, .number rfl written (by decide), .deadline 250⟩, .unset rfl⟩
    rw [named]
    exact .shipped (by decide) rfl
  have taken : Settings.default.withOverrides lookup = .ok ⟨.niosLegacy, .deadline 250, 1⟩ :=
    (overrides ..).mpr ⟨environment, sound, rfl⟩
  have built : s.Built := .budget (.environment .default lookup taken) 2 rfl
  refine ⟨?_, ?_, built, ?_⟩
  · exact (options ..).mpr ⟨environment, ⟨none, some (.attempts 2), none⟩, sound, ⟨.unset, .budget (by decide), rfl⟩, rfl⟩
  · intro s' made
    obtain ⟨_, _, ⟨-, ⟨_, _, held, -, -⟩, -⟩, -⟩ := (options ..).mp made
    cases held with
    | unset absent => nomatch absent
    | number set written =>
      obtain rfl : "lots" = _ := Option.some.inj set
      have letters : (Text.trim "lots").toList = ['l', 'o', 't', 's'] := by decide
      rw [letters] at written
      cases written with
      | plain _ all => exact absurd (all 'l' (.head _)) (by decide)
  · have ran : ((Sequencer.start .niosLegacy (.attempts 2)).perform Call.reset.issue).runOn (Script.board (.steady 0))
        ((Script.empty 0).preset 0x30004 [1]) .empty =
          ⟨some (.ok (.report ⟨.reset, [⟨.sequencer, .expired 2⟩]⟩), _), _, _⟩ := rfl
    obtain ⟨as, waits, journal, gave, watched, -⟩ :=
      (polled s built).2 (Script.board (.steady 0)) s.sequencer .start .reset .reset _ _ _ _ _ _ rfl ran
    obtain ⟨-, rfl⟩ := WaitReport.mk.inj (Answer.report.inj gave)
    obtain rfl : _ = as := journal
    exact ⟨_, _, _, ran, watched⟩

end Systolic
