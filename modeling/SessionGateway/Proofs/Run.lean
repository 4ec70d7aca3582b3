import Mathlib.Data.List.Forall2
import SessionGateway.Proofs.Conduct

/-! Runs of a client. All that a call leaves behind is how far the sources have been read, and that
is known from the calls alone: neither what they were told nor what came of them matters. -/

namespace SessionGateway

def Call.isSession : Call → Bool
  | session _ => true
  | _ => false

theorem Call.idempotency_options (call : Call) : call.options.idempotency = call.isSession := by
  cases call <;> rfl

namespace Asked

/-- How far calls get a client with its sources. -/
def along (asked : Asked) (calls : List Call) : Asked :=
  ⟨asked.clock + calls.length, asked.suffix + calls.countP Call.isSession,
    asked.reply + calls.length⟩

theorem after_along (asked : Asked) (call : Call) (calls : List Call) :
    (asked.after call).along calls = asked.along (call :: calls) := by
  simp only [along, after, Call.idempotency_options, List.length_cons, List.countP_cons, mk.injEq]
  cases call.isSession <;> simp <;> omega

end Asked

namespace Client

variable (answers : Answers) (client : Client)

theorem next_eq (call : Call) :
    client.next answers call = ⟨client.config, client.asked.after call⟩ := by
  rw [next, step_eq]

theorem after_eq (calls : List Call) :
    client.after answers calls = ⟨client.config, client.asked.along calls⟩ := by
  induction calls generalizing client with
  | nil => rfl
  | cons call calls ih =>
    have h := ih (client.next answers call)
    rw [after, List.foldl_cons]
    rw [after, next_eq] at h
    rw [next_eq, h, Asked.after_along]

theorem length_run (calls : List Call) : (client.run answers calls).length = calls.length := by
  induction calls generalizing client with
  | nil => rfl
  | cons call calls ih => simp only [run, List.length_cons, ih]

theorem run_append (before rest : List Call) :
    client.run answers (before ++ rest) =
      client.run answers before ++ (client.after answers before).run answers rest := by
  induction before generalizing client with
  | nil => rfl
  | cons call before ih => simp only [List.cons_append, run, ih, after, List.foldl_cons]

/-- A call of a run is a call of the client that the calls before it leave. -/
theorem getElem?_run (before rest : List Call) (call : Call) :
    (client.run answers (before ++ call :: rest))[before.length]? =
      some ((client.after answers before).step answers call) := by
  have hlength := length_run answers client before
  rw [run_append, List.getElem?_append_right (Nat.le_of_eq hlength), hlength, Nat.sub_self]
  rfl

variable {answers} {others : Answers} {config other : ClientConfig}

/-- What holds of a call wherever the client stands holds of each step of a run. -/
theorem forall_mem_run {property : Step → Prop} {calls : List Call}
    (steps : ∀ asked, ∀ call ∈ calls, property (step answers ⟨config, asked⟩ call))
    (asked : Asked) : ∀ s ∈ run answers ⟨config, asked⟩ calls, property s := by
  induction calls generalizing asked with
  | nil => simp [run]
  | cons call calls ih =>
    simp only [run, next_eq, List.forall_mem_cons]
    exact ⟨steps asked call List.mem_cons_self,
      ih (fun asked c hc => steps asked c (List.mem_cons_of_mem call hc)) _⟩

/-- Two runs whose calls are alike one by one have steps that are alike one by one, if the calls
ask for as many suffixes and their steps are alike wherever the two clients stand. -/
theorem forall₂_run {alike : Call → Call → Prop} {observed : Step → Step → Prop}
    (suffixes : ∀ call call', alike call call' → call.isSession = call'.isSession)
    (steps : ∀ asked call call', alike call call' →
      observed (step answers ⟨config, asked⟩ call) (step others ⟨other, asked⟩ call'))
    {calls calls' : List Call} (h : List.Forall₂ alike calls calls') (asked : Asked) :
    List.Forall₂ observed (run answers ⟨config, asked⟩ calls)
      (run others ⟨other, asked⟩ calls') := by
  induction h generalizing asked with
  | nil => exact .nil
  | @cons call call' _ _ halike _ ih =>
    have hasked : asked.after call = asked.after call' := by
      simp only [Asked.after, Call.idempotency_options, suffixes call call' halike]
    refine .cons (steps asked call call' halike) ?_
    rw [next_eq, next_eq, ← hasked]
    exact ih (asked.after call)

theorem forall₂_run_same {observed : Step → Step → Prop}
    (steps : ∀ asked call,
      observed (step answers ⟨config, asked⟩ call) (step others ⟨other, asked⟩ call))
    (calls : List Call) (asked : Asked) :
    List.Forall₂ observed (run answers ⟨config, asked⟩ calls)
      (run others ⟨other, asked⟩ calls) := by
  have hsame : List.Forall₂ (fun call call' : Call => call = call') calls calls :=
    List.forall₂_refl calls
  refine forall₂_run ?_ ?_ hsame asked
  · rintro call _ rfl
    rfl
  · rintro asked call _ rfl
    exact steps asked call

end Client

/-- Each call of a run by a fresh client makes one request, whatever the replies: it reads the clock
once, asks for a suffix if it makes a session, and sends what a client that has made no call sends
with that reading and that suffix. Nothing happens to the configuration. -/
theorem run_single_attempts (config : ClientConfig) (answers others : Answers)
    (before rest : List Call) (call : Call) :
    let client := Client.fresh config
    let i := before.length
    let k := before.countP Call.isSession
    let likewise : Answers :=
      { others with clock := fun _ => answers.clock i, suffix := fun _ => answers.suffix k }
    (client.run answers (before ++ call :: rest)).length = (before ++ call :: rest).length ∧
    (client.after answers (before ++ call :: rest)).config = config ∧
    client.after answers before = ⟨config, ⟨i, k, i⟩⟩ ∧
    ∃ step, (client.run answers (before ++ call :: rest))[i]? = some step ∧
      step.sent = [call.request config (answers.clock i) (answers.suffix k)] ∧
      step.sent = (client.step likewise call).sent ∧
      step.result = (answers.reply i).outcome call.endpoint ∧
      step.asked = ⟨i + 1, k + call.isSession.toNat, i + 1⟩ := by
  intro client i k likewise
  have hbefore : client.after answers before = ⟨config, ⟨i, k, i⟩⟩ := by
    rw [Client.after_eq]
    simp [client, Client.fresh, Asked.none, Asked.along, i, k]
  refine ⟨Client.length_run answers client _, ?_, hbefore,
    _, Client.getElem?_run answers client before rest call, ?_⟩
  · rw [Client.after_eq]
    rfl
  · rw [hbefore, Client.step_eq, Client.step_eq]
    refine ⟨rfl, rfl, rfl, ?_⟩
    simp only [Asked.after, Call.idempotency_options]

end SessionGateway
