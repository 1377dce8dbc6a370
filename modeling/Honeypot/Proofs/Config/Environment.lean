import Honeypot.Proofs.Config.Literal
import Honeypot.Proofs.Number.Clamp

namespace Honeypot

namespace Environment

/-- A variable is set, and between blanks it has some text. -/
def Says (env : Environment) (key : String) (text : List Char) : Prop :=
  ∃ raw, env key = some raw ∧ Trimmed raw.toList text ∧ text ≠ []

/-- The value that a variable gives to a setting, if it says anything. -/
def Gives {α : Type} (env : Environment) (key : String) (IsText : List Char → α → Prop) :
    Option α → Prop
  | none => ∀ text, ¬env.Says key text
  | some value => ∃ text, env.Says key text ∧ IsText text value

/-- A setting has the value that its variable gives, or its usual one. -/
def Sets {α : Type} (env : Environment) (key : String) (IsText : List Char → α → Prop)
    (usual value : α) : Prop :=
  ∃ given, env.Gives key IsText given ∧ value = given.getD usual

variable {α : Type} {env : Environment} {key : String} {text : List Char}

theorem says_iff {raw : String} (h : env key = some raw) :
    env.Says key text ↔ trimBlanks raw.toList = text ∧ text ≠ [] := by
  constructor
  · rintro ⟨raw', h', htext, hne⟩
    obtain rfl := Option.some.inj (h.symm.trans h')
    exact ⟨trimmed_iff.mp htext, hne⟩
  · rintro ⟨htext, hne⟩
    exact ⟨raw, h, trimmed_iff.mpr htext, hne⟩

/-- A setting is taken from its variable, unless this says something that is not accepted. -/
theorem setting_cases {read : List Char → Except String α} {IsText : List Char → α → Prop}
    (hread : ∀ text value, read text = .ok value ↔ IsText text value) (env : Environment)
    (key : String) (accept : α → Bool) (demand : String) :
    (∃ message, env.setting key read accept demand = .error (.badSetting key message) ∧
      ∃ text, env.Says key text ∧ ¬∃ value, IsText text value ∧ accept value = true) ∨
    ∃ given, env.setting key read accept demand = .ok given ∧ env.Gives key IsText given ∧
      (∀ value ∈ given, accept value = true) ∧
      ∀ text, env.Says key text → ∃ value, IsText text value ∧ accept value = true := by
  unfold setting
  cases hraw : env key with
  | none =>
      have htold : ∀ text, ¬env.Says key text := by
        rintro text ⟨raw, h, -⟩
        rw [hraw] at h
        cases h
      exact .inr ⟨none, rfl, htold, nofun, fun text h => absurd h (htold text)⟩
  | some raw =>
      dsimp only
      have htold (text : List Char) : env.Says key text ↔ _ := says_iff hraw
      split
      · rename_i hnil
        rw [List.isEmpty_iff] at hnil
        have htold : ∀ text, ¬env.Says key text := by
          intro text h
          obtain ⟨rfl, hne⟩ := (htold text).mp h
          exact hne hnil
        exact .inr ⟨none, rfl, htold, nofun, fun text h => absurd h (htold text)⟩
      · rename_i hne
        rw [List.isEmpty_iff] at hne
        have hown : env.Says key (trimBlanks raw.toList) := (htold _).mpr ⟨rfl, hne⟩
        cases hvalue : read (trimBlanks raw.toList) with
        | error problem =>
            refine .inl ⟨_, rfl, _, hown, ?_⟩
            rintro ⟨value, h, -⟩
            rw [← hread, hvalue] at h
            cases h
        | ok value =>
            have htext := (hread _ _).mp hvalue
            dsimp only
            split
            · rename_i haccept
              refine .inr ⟨some value, rfl, ⟨_, hown, htext⟩, ?_, ?_⟩
              · rintro _ ⟨⟩
                exact haccept
              · intro text h
                obtain ⟨rfl, -⟩ := (htold text).mp h
                exact ⟨value, htext, haccept⟩
            · rename_i haccept
              refine .inl ⟨_, rfl, _, hown, ?_⟩
              rintro ⟨other, h, hother⟩
              rw [← hread, hvalue] at h
              obtain rfl := Except.ok.inj h
              exact haccept hother

end Environment

inductive Setting
  | window
  | share
  | failedShare
  | failedSamples

namespace Setting

def all : List Setting := [.window, .share, .failedShare, .failedSamples]

def key : Setting → String
  | .window => Settings.windowKey
  | .share => Settings.shareKey
  | .failedShare => Settings.failedShareKey
  | .failedSamples => Settings.failedSamplesKey

/-- The texts that give a value in range: a share above zero and up to one, and a positive number
of 64 bits for each of the others. -/
def Admits : Setting → List Char → Prop
  | .failedShare, text => ∃ x, IsDouble text x ∧ 0 < x ∧ x ≤ 1
  | .window, text | .share, text | .failedSamples, text => ∃ w, IsWord text w ∧ 1 ≤ w

/-- The variable of a setting says something that gives no value in range. -/
def IsFaulty (env : Environment) (s : Setting) : Prop :=
  ∃ text, env.Says s.key text ∧ ¬s.Admits text

/-- A setting whose variable is faulty, while none before it is. -/
def IsFirstFault (env : Environment) (s : Setting) : Prop :=
  s.IsFaulty env ∧ ∃ before after, all = before ++ s :: after ∧
    ∀ earlier ∈ before, ¬earlier.IsFaulty env

end Setting

/-- All settings have values in range; the share is a finite number, then. -/
structure HistoryRules.InRange (rules : HistoryRules Float) : Prop where
  window : 1 ≤ rules.window
  share : 1 ≤ rules.share
  failedShare_pos : 0 < rules.failedShare
  failedShare_le_one : rules.failedShare ≤ 1
  failedShare_finite : rules.failedShare.isFinite = true
  failedSamples : 1 ≤ rules.failedSamples

/-- The usual configuration, but for the settings that the environment gives. -/
structure Config.Follows (config : Config Float) (env : Environment) : Prop where
  frame : config = { Config.standard with history := { HistoryRules.standard with
    window := config.history.window
    share := config.history.share
    failedShare := config.history.failedShare
    failedSamples := config.history.failedSamples } }
  window : env.Sets Settings.windowKey IsWord 300 config.history.window
  share : env.Sets Settings.shareKey IsWord 7000 config.history.share
  failedShare : env.Sets Settings.failedShareKey IsDouble 0.5 config.history.failedShare
  failedSamples : env.Sets Settings.failedSamplesKey IsWord 3 config.history.failedSamples

structure Settings.Given (s : Settings) (env : Environment) : Prop where
  window : env.Gives windowKey IsWord s.window ∧ ∀ w ∈ s.window, 1 ≤ w
  share : env.Gives shareKey IsWord s.share ∧ ∀ w ∈ s.share, 1 ≤ w
  failedShare :
    env.Gives failedShareKey IsDouble s.failedShare ∧ ∀ x ∈ s.failedShare, 0 < x ∧ x ≤ 1
  failedSamples : env.Gives failedSamplesKey IsWord s.failedSamples ∧ ∀ w ∈ s.failedSamples, 1 ≤ w

theorem one_le_iff_pos {w : UInt64} : decide (0 < w) = true ↔ 1 ≤ w := by
  rw [decide_eq_true_iff, UInt64.lt_iff_toNat_lt, UInt64.le_iff_toNat_le]
  exact Iff.rfl

theorem Settings.isShare_iff {x : Float} : isShare x = true ↔ 0 < x ∧ x ≤ 1 := by
  rw [isShare, Bool.and_eq_true]
  exact and_congr decide_eq_true_iff decide_eq_true_iff

theorem Setting.word_cases (env : Environment) (s : Setting) (hs : s ≠ .failedShare)
    (demand : String) :
    (∃ message, env.setting s.key readWord (0 < ·) demand = .error (.badSetting s.key message) ∧
      s.IsFaulty env) ∨
    ∃ given, env.setting s.key readWord (0 < ·) demand = .ok given ∧
      (env.Gives s.key IsWord given ∧ ∀ w ∈ given, 1 ≤ w) ∧ ¬s.IsFaulty env := by
  have hadmits (text : List Char) : s.Admits text ↔
      ∃ w, IsWord text w ∧ decide (0 < w) = true := by
    simp only [one_le_iff_pos]
    cases s with
    | failedShare => exact absurd rfl hs
    | window | share | failedSamples => rfl
  rcases Environment.setting_cases (fun _ _ => readWord_eq_ok_iff) env s.key (0 < ·) demand with
    ⟨message, herror, text, htold, hfault⟩ | ⟨given, hgiven, hgives, haccept, hall⟩
  · exact .inl ⟨message, herror, text, htold, fun h => hfault ((hadmits text).mp h)⟩
  · refine .inr ⟨given, hgiven, ⟨hgives, fun w hw => one_le_iff_pos.mp (haccept w hw)⟩, ?_⟩
    rintro ⟨text, htold, hfault⟩
    exact hfault ((hadmits text).mpr (hall text htold))

theorem Setting.failedShare_cases (env : Environment) (demand : String) :
    (∃ message, env.setting failedShare.key readDouble Settings.isShare demand =
      .error (.badSetting failedShare.key message) ∧ failedShare.IsFaulty env) ∨
    ∃ given, env.setting failedShare.key readDouble Settings.isShare demand = .ok given ∧
      (env.Gives failedShare.key IsDouble given ∧ ∀ x ∈ given, 0 < x ∧ x ≤ 1) ∧
      ¬failedShare.IsFaulty env := by
  rcases Environment.setting_cases (fun _ _ => readDouble_eq_ok_iff) env failedShare.key
    Settings.isShare demand with
    ⟨message, herror, text, htold, hfault⟩ | ⟨given, hgiven, hgives, haccept, hall⟩
  · simp only [Settings.isShare_iff] at hfault
    exact .inl ⟨message, herror, text, htold, hfault⟩
  · simp only [Settings.isShare_iff] at haccept hall
    refine .inr ⟨given, hgiven, ⟨hgives, haccept⟩, ?_⟩
    rintro ⟨text, htold, hfault⟩
    exact hfault (hall text htold)

/-- Reading the settings stops at the first faulty variable, and only there. -/
theorem Settings.read_cases (env : Environment) :
    (∃ (setting : Setting) (message : String),
      read env = .error (.badSetting setting.key message) ∧ setting.IsFirstFault env) ∨
    ∃ s, read env = .ok s ∧ s.Given env ∧ ∀ setting : Setting, ¬setting.IsFaulty env := by
  have hread : read env = (do
      let window ← env.setting Setting.window.key readWord (0 < ·) "must be > 0"
      let share ← env.setting Setting.share.key readWord (0 < ·) "must be > 0"
      let failedShare ← env.setting Setting.failedShare.key readDouble isShare "must be in (0, 1]"
      let failedSamples ← env.setting Setting.failedSamples.key readWord (0 < ·) "must be >= 1"
      return { window, share, failedShare, failedSamples }) := rfl
  rw [hread]
  rcases Setting.word_cases env .window nofun "must be > 0" with
    ⟨message, herror, hfault⟩ | ⟨window, hwindow, hgiven₁, hgood₁⟩
  · rw [herror]
    exact .inl ⟨.window, message, rfl, hfault, [], _, rfl, by simp⟩
  rw [hwindow]
  rcases Setting.word_cases env .share nofun "must be > 0" with
    ⟨message, herror, hfault⟩ | ⟨share, hshare, hgiven₂, hgood₂⟩
  · rw [herror]
    exact .inl ⟨.share, message, rfl, hfault, [.window], _, rfl, by simp [hgood₁]⟩
  rw [hshare]
  rcases Setting.failedShare_cases env "must be in (0, 1]" with
    ⟨message, herror, hfault⟩ | ⟨failedShare, hfailedShare, hgiven₃, hgood₃⟩
  · rw [herror]
    exact .inl ⟨.failedShare, message, rfl, hfault, [.window, .share], _, rfl,
      by simp [hgood₁, hgood₂]⟩
  rw [hfailedShare]
  rcases Setting.word_cases env .failedSamples nofun "must be >= 1" with
    ⟨message, herror, hfault⟩ | ⟨failedSamples, hfailedSamples, hgiven₄, hgood₄⟩
  · rw [herror]
    exact .inl ⟨.failedSamples, message, rfl, hfault, [.window, .share, .failedShare], _, rfl,
      by simp [hgood₁, hgood₂, hgood₃]⟩
  rw [hfailedSamples]
  refine .inr ⟨_, rfl, ⟨hgiven₁, hgiven₂, hgiven₃, hgiven₄⟩, ?_⟩
  rintro (_ | _ | _ | _)
  · exact hgood₁
  · exact hgood₂
  · exact hgood₃
  · exact hgood₄

theorem Double.le_of_lt {x y : Float} (h : x < y) : x ≤ y := by
  rw [le_iff_compare, lt_iff_compare.mp h]
  rfl

theorem usual_failedShare : (HistoryRules.standard : HistoryRules Float).failedShare = 0.5 := by
  decide +kernel

theorem getD_of_forall_mem {α : Type} {P : α → Prop} {o : Option α} {usual : α}
    (h : ∀ a ∈ o, P a) (husual : P usual) : P (o.getD usual) := by
  cases o with
  | none => exact husual
  | some a => exact h a rfl

namespace Settings.Given

variable {s : Settings} {env : Environment}

theorem inRange (h : s.Given env) : (s.apply HistoryRules.standard).InRange := by
  have hpos (w : UInt64) (hw : 1 ≤ w) {o : Option UInt64} (h : ∀ w ∈ o, 1 ≤ w) : 1 ≤ o.getD w :=
    getD_of_forall_mem h hw
  have hshare : 0 < (s.apply HistoryRules.standard).failedShare ∧
      (s.apply HistoryRules.standard).failedShare ≤ 1 :=
    getD_of_forall_mem (P := fun x : Float => 0 < x ∧ x ≤ 1) h.failedShare.2 (by decide)
  exact {
    window := hpos _ (by decide) h.window.2
    share := hpos _ (by decide) h.share.2
    failedShare_pos := hshare.1
    failedShare_le_one := hshare.2
    failedShare_finite := Double.isFinite_of_le_of_le rfl rfl (Double.le_of_lt hshare.1) hshare.2
    failedSamples := hpos _ (by decide) h.failedSamples.2 }

theorem follows (h : s.Given env) :
    ({ Config.standard with history := s.apply HistoryRules.standard } : Config Float).Follows
      env where
  frame := rfl
  window := ⟨s.window, h.window.1, rfl⟩
  share := ⟨s.share, h.share.1, rfl⟩
  failedShare := by
    rw [← usual_failedShare]
    exact ⟨s.failedShare, h.failedShare.1, rfl⟩
  failedSamples := ⟨s.failedSamples, h.failedSamples.1, rfl⟩

end Settings.Given

/-- A configuration is taken from the environment if and only if no variable is faulty. -/
theorem Config.ofEnvironment_validates (env : Environment) :
    ((∃ config log, ofEnvironment env = .ok (config, log)) ↔
      ∀ setting : Setting, ¬setting.IsFaulty env) ∧
    (∀ config log, ofEnvironment env = .ok (config, log) →
      config.Follows env ∧ config.history.InRange) ∧
    ∀ fault, ofEnvironment env = .error fault → fault.code = "CFG_INVALID_VALUE" ∧
      ∃ setting : Setting, setting.IsFirstFault env ∧
        ∃ rest, fault.message = setting.key ++ ": " ++ rest := by
  rcases Settings.read_cases env with
    ⟨setting, message, herror, hfirst⟩ | ⟨s, hread, hgiven, hgood⟩
  · have h : ofEnvironment env = .error (.badSetting setting.key message) := by
      rw [ofEnvironment, herror]
      rfl
    rw [h]
    refine ⟨iff_of_false nofun fun hgood => hgood setting hfirst.1, nofun, ?_⟩
    rintro fault ⟨⟩
    exact ⟨rfl, setting, hfirst, message, rfl⟩
  · have h : ofEnvironment env =
        .ok ({ Config.standard with history := s.apply HistoryRules.standard }, s.log) := by
      rw [ofEnvironment, hread]
      rfl
    rw [h]
    refine ⟨iff_of_true ⟨_, _, rfl⟩ hgood, ?_, nofun⟩
    rintro config log ⟨⟩
    exact ⟨hgiven.follows, hgiven.inRange⟩

def Environment.partlySet : Environment := fun key =>
  if key = Settings.windowKey then some " +600\n"
  else if key = Settings.shareKey then some "\t "
  else if key = Settings.failedShareKey then some ".25"
  else none

def Environment.twiceFaulty : Environment := fun key =>
  if key = Settings.windowKey then some "600"
  else if key = Settings.shareKey then some "0"
  else if key = Settings.failedShareKey then some "-nan"
  else none

theorem Config.ofEnvironment_validates_partlySet :
    (∃ config log, ofEnvironment .partlySet = .ok (config, log) ∧ config.Follows .partlySet ∧
      config.history.InRange) ∧
    ∃ fault, ofEnvironment .twiceFaulty = .error fault ∧ fault.code = "CFG_INVALID_VALUE" ∧
      ∃ setting : Setting, setting.IsFirstFault .twiceFaulty ∧
        ∃ rest, fault.message = setting.key ++ ": " ++ rest := by
  have hok : (ofEnvironment .partlySet).isOk = true := by decide +kernel
  have herror : (ofEnvironment .twiceFaulty).isOk = false := by decide +kernel
  refine ⟨?_, ?_⟩
  · cases h : ofEnvironment .partlySet with
    | error fault =>
        rw [h] at hok
        cases hok
    | ok result =>
        obtain ⟨config, log⟩ := result
        exact ⟨config, log, rfl, (ofEnvironment_validates .partlySet).2.1 config log h⟩
  · cases h : ofEnvironment .twiceFaulty with
    | error fault => exact ⟨fault, rfl, (ofEnvironment_validates .twiceFaulty).2.2 fault h⟩
    | ok result =>
        rw [h] at herror
        cases herror

end Honeypot
