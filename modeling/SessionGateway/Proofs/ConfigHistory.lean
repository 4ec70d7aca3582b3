import Mathlib.Data.List.Induction
import Mathlib.Data.List.TakeWhile
import SessionGateway.Client.Call
import SessionGateway.Settings.Probe

/-! Settings of a client that are made step by step. The base URL and the key are those that the
settings start with, the base URL without slashes at its end; the project and the timeout are those
of the last step that sets one. -/

namespace SessionGateway

/-! ## The base URL -/

namespace Text

theorem trimTrailing_append (c : Char) (s : String) (n : Nat) :
    trimTrailing c (s ++ String.ofList (List.replicate n c)) = trimTrailing c s := by
  have hall : ∀ d ∈ List.replicate n c, (d == c) = true := by
    intro d hd
    simpa using List.eq_of_mem_replicate hd
  simp [trimTrailing, List.dropWhile_append_of_pos hall]

/-- Only what stands at the end is lost. -/
theorem eq_trimTrailing_append (c : Char) (s : String) :
    ∃ n, s = trimTrailing c s ++ String.ofList (List.replicate n c) := by
  obtain ⟨n, hrun⟩ : ∃ n, s.toList.reverse.takeWhile (· == c) = List.replicate n c :=
    ⟨_, List.eq_replicate_iff.mpr ⟨rfl, fun d hd => by simpa using List.mem_takeWhile_imp hd⟩⟩
  have hsplit := congrArg List.reverse
    (List.takeWhile_append_dropWhile (p := (· == c)) (l := s.toList.reverse))
  rw [hrun] at hsplit
  exact ⟨n, String.toList_inj.mp (by simpa [trimTrailing] using hsplit.symm)⟩

theorem trimTrailing_eq_self {c : Char} {s : String} (h : s.toList.getLast? ≠ some c) :
    trimTrailing c s = s := by
  rw [List.getLast?_eq_head?_reverse] at h
  have hkept : s.toList.reverse.dropWhile (· == c) = s.toList.reverse := by
    cases hrev : s.toList.reverse with
    | nil => rfl
    | cons d rest =>
      have hd : d ≠ c := by simpa [hrev] using h
      simp [hd]
  rw [trimTrailing, hkept, List.reverse_reverse, String.ofList_toList]

theorem getLast?_trimTrailing (c : Char) (s : String) :
    (trimTrailing c s).toList.getLast? ≠ some c := by
  rw [trimTrailing, String.toList_ofList, List.getLast?_reverse]
  intro h
  have hnot := List.head?_dropWhile_not (· == c) s.toList.reverse
  rw [h] at hnot
  simp at hnot

end Text

theorem Endpoint.toList_path (e : Endpoint) :
    e.path.toList = '/' :: ("api/v1/sdk/" ++ e.name).toList := by
  rw [path, String.toList_append, String.toList_append]
  rfl

/-- Slashes behind a text. -/
def slashes (n : Nat) : String := String.ofList (List.replicate n '/')

/-- What a text is without slashes at its end. -/
structure IsBase (base text : String) : Prop where
  bare : base.toList.getLast? ≠ some '/'
  restores : ∃ n, text = base ++ slashes n

theorem isBase_iff {base text : String} : IsBase base text ↔ base = Text.trimTrailing '/' text := by
  constructor
  · rintro ⟨hbare, n, rfl⟩
    rw [slashes, Text.trimTrailing_append, Text.trimTrailing_eq_self hbare]
  · rintro rfl
    exact ⟨Text.getLast?_trimTrailing '/' text, Text.eq_trimTrailing_append '/' text⟩

namespace ClientConfig

theorem new_append_slashes (text key : String) (n : Nat) :
    new (text ++ slashes n) key = new text key := by
  rw [new, slashes, Text.trimTrailing_append]
  rfl

theorem isBase_new (text key : String) : IsBase (new text key).baseUrl text := isBase_iff.mpr rfl

/-- Making settings of a base URL that was made already changes nothing. -/
theorem new_baseUrl_new (text key : String) : new (new text key).baseUrl key = new text key := by
  rw [new, Text.trimTrailing_eq_self (isBase_new text key).bare]
  rfl

/-! ## Steps -/

/-- A step of making settings. -/
inductive Adjustment where
  | project (name : String)
  | timeout (seconds : Binary64)

namespace Adjustment

def project? : Adjustment → Option String
  | project name => some name
  | timeout _ => none

def timeout? : Adjustment → Option Binary64
  | project _ => none
  | timeout seconds => some seconds

end Adjustment

def adjust (config : ClientConfig) : Adjustment → ClientConfig
  | .project name => config.withProjectId name
  | .timeout seconds => config.withTimeout seconds

/-- The settings after a history of steps. -/
def adjustAll (config : ClientConfig) (steps : List Adjustment) : ClientConfig :=
  steps.foldl adjust config

/-- The project that was set last. -/
def lastProject? (steps : List Adjustment) : Option String :=
  (steps.filterMap Adjustment.project?).getLast?

/-- The timeout that was set last. -/
def lastTimeout? (steps : List Adjustment) : Option Binary64 :=
  (steps.filterMap Adjustment.timeout?).getLast?

variable (config : ClientConfig)

theorem adjustAll_concat (steps : List Adjustment) (step : Adjustment) :
    config.adjustAll (steps ++ [step]) = (config.adjustAll steps).adjust step := by
  rw [adjustAll, List.foldl_append]
  rfl

/-- Steps of different kinds can be made in either order. -/
theorem adjust_comm (name : String) (seconds : Binary64) :
    (config.adjust (.project name)).adjust (.timeout seconds) =
      (config.adjust (.timeout seconds)).adjust (.project name) := rfl

theorem projectId_adjust_ne_empty {config : ClientConfig} (h : config.projectId ≠ some "")
    (step : Adjustment) : (config.adjust step).projectId ≠ some "" := by
  cases step with
  | project name =>
    show nonempty? name ≠ some ""
    unfold nonempty?
    split
    next => exact nofun
    next hname =>
      intro hempty
      rw [Option.some.inj hempty] at hname
      exact hname rfl
  | timeout seconds => exact h

/-- No history leads to an empty project. -/
theorem projectId_adjustAll_ne_empty {config : ClientConfig} (h : config.projectId ≠ some "")
    (steps : List Adjustment) : (config.adjustAll steps).projectId ≠ some "" := by
  induction steps generalizing config with
  | nil => exact h
  | cons step steps ih => exact ih (projectId_adjust_ne_empty h step)

/-- A history leaves what its last steps set. -/
theorem adjustAll_eq (steps : List Adjustment) :
    config.adjustAll steps =
      { config with
        projectId := (lastProject? steps).elim config.projectId nonempty?
        timeoutSeconds := (lastTimeout? steps).getD config.timeoutSeconds } := by
  induction steps using List.reverseRecOn with
  | nil => rfl
  | append_singleton steps step ih =>
    rw [adjustAll_concat, ih]
    cases step with
    | project name =>
      simp [adjust, withProjectId, lastProject?, lastTimeout?, Adjustment.project?,
        Adjustment.timeout?]
    | timeout seconds =>
      simp [adjust, withTimeout, lastProject?, lastTimeout?, Adjustment.project?,
        Adjustment.timeout?]

/-- Steps of different kinds that follow one another can be swapped anywhere in a history. -/
theorem adjustAll_swap (front rest : List Adjustment) (name : String) (seconds : Binary64) :
    config.adjustAll (front ++ .project name :: .timeout seconds :: rest) =
      config.adjustAll (front ++ .timeout seconds :: .project name :: rest) := by
  simp only [adjustAll, List.foldl_append, List.foldl_cons, adjust_comm]

end ClientConfig

/-- The settings that are loaded are made in two steps at the most. -/
theorem GatewaySettings.clientConfig_eq (g : GatewaySettings) :
    g.clientConfig = (ClientConfig.new g.baseUrl g.apiKey).adjustAll
      (.timeout g.timeoutSeconds :: (g.projectId.map .project).toList) := by
  obtain ⟨baseUrl, apiKey, _ | project, timeout⟩ := g <;> rfl

/-- Where an endpoint is asked: its path is put behind the base URL, with one slash between what
comes before and what comes after. -/
structure Joins (base : String) (e : Endpoint) (url : String) : Prop where
  glued : url = base ++ e.path
  front : base.toList.getLast? ≠ some '/'
  back : ∃ more, e.path.toList = '/' :: more ∧ more.head? ≠ some '/'

theorem ClientConfig.joins_url {config : ClientConfig}
    (h : config.baseUrl.toList.getLast? ≠ some '/') (e : Endpoint) :
    Joins config.baseUrl e (config.url e) := by
  refine ⟨rfl, h, _, e.toList_path, ?_⟩
  cases e <;> decide

/-- What settings are that start with a text for the base URL and a key, and are changed by steps. -/
structure ClientConfig.MadeFrom (config : ClientConfig) (text key : String)
    (steps : List Adjustment) : Prop where
  base : IsBase config.baseUrl text
  joins : ∀ e, Joins config.baseUrl e (config.url e)
  requests : ∀ (call : Call) now suffix,
    (call.request config now suffix).url = config.url call.endpoint
  /-- The steps leave the base URL and the key alone. -/
  baseUrl : config.baseUrl = (new text key).baseUrl
  apiKey : config.apiKey = key
  projectId : config.projectId = (lastProject? steps).bind nonempty?
  nonempty : config.projectId ≠ some ""
  timeoutSeconds : config.timeoutSeconds = (lastTimeout? steps).getD defaultTimeout

theorem ClientConfig.madeFrom_adjustAll (text key : String) (steps : List Adjustment) :
    ((new text key).adjustAll steps).MadeFrom text key steps := by
  have hempty : (new text key).projectId ≠ some "" := (Option.some_ne_none "").symm
  have hnonempty := projectId_adjustAll_ne_empty hempty steps
  rw [adjustAll_eq] at hnonempty ⊢
  have hbase := isBase_new text key
  exact { base := hbase, joins := joins_url hbase.bare, requests := fun _ _ _ => rfl, baseUrl := rfl,
          apiKey := rfl, projectId := by cases lastProject? steps <;> rfl, nonempty := hnonempty,
          timeoutSeconds := rfl }

/-- After any steps, the base URL is what was given without the slashes at its end, however many
there were, and every request goes to it with the path of its endpoint behind one slash. The last
steps of either kind decide on the project, which is never empty, and on the timeout; steps of
different kinds can be swapped. The settings that are loaded are made like that. -/
theorem settings_normalForm (text key : String) (steps : List ClientConfig.Adjustment) :
    let made (base : String) (steps : List ClientConfig.Adjustment) : ClientConfig :=
      (ClientConfig.new base key).adjustAll steps
    (made text steps).MadeFrom text key steps ∧
    (∀ n, made (text ++ slashes n) steps = made text steps) ∧
    made (made text steps).baseUrl steps = made text steps ∧
    (∀ front rest name seconds,
      made text (front ++ .project name :: .timeout seconds :: rest) =
        made text (front ++ .timeout seconds :: .project name :: rest)) ∧
    ∀ g : GatewaySettings, g.clientConfig = (ClientConfig.new g.baseUrl g.apiKey).adjustAll
      (.timeout g.timeoutSeconds :: (g.projectId.map .project).toList) := by
  intro made
  have hmade := ClientConfig.madeFrom_adjustAll text key steps
  refine ⟨hmade, fun n => ?_, ?_, ClientConfig.adjustAll_swap _, GatewaySettings.clientConfig_eq⟩
  · simp only [made, ClientConfig.new_append_slashes]
  · show (ClientConfig.new (made text steps).baseUrl key).adjustAll steps = made text steps
    rw [hmade.baseUrl, ClientConfig.new_baseUrl_new]

end SessionGateway
