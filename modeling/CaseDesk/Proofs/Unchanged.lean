/-
  Calls that change nothing.

  * `ServiceName.method?_eq_some`: every method is registered, and the registry
    asks for read access to list and to locate, and only there.
  * `Call.unchanged`: a call that fails changes nothing, and neither does one
    that the registry takes for reading.
-/
import CaseDesk.Proofs.Runs

namespace CaseDesk

/-- Every method is registered, and needs read access just where it lists or locates. -/
theorem ServiceName.method?_eq_some (service : ServiceName) (op : Operation) :
    ∃ s m, Registry.method? service.word (service.methodWord op) = some (s, m) ∧
      (m.access = .read ↔ op = .list ∨ op = .locate) := by
  obtain ⟨s, m, hm, -, haccess, -⟩ := service.registered op
  refine ⟨s, m, hm, ?_⟩
  rw [haccess]
  cases op <;> decide

/-- **A call that fails leaves all tables as they were, and so does a call that the registry takes
    for reading, whether it fails or not.**  Those are the calls that list or locate. -/
theorem Call.unchanged (call : Call) (ctx : Context) (s : Tables) :
    (∀ e, (call.run ctx s).1 = .error e → (call.run ctx s).2 = s) ∧
      ∃ service m, Registry.method? call.service.word (call.service.methodWord call.operation) =
          some (service, m) ∧
        (m.access = .read ↔ call.operation = .list ∨ call.operation = .locate) ∧
        (m.access = .read → (call.run ctx s).2 = s) := by
  have hstep := call.step_run ctx s
  obtain ⟨service, m, hm, hread⟩ := call.service.method?_eq_some call.operation
  exact ⟨fun e he => hstep.unchanged_of_error he, service, m, hm, hread,
    fun haccess => hstep.unchanged_of_read (hread.1 haccess)⟩

/-- An agreement is created, and then asked to end before it starts. -/
def reversedWindow : Run :=
  [.bySuperuser (.slas (.create ⟨(), some ⟨"gold", "", 0, 0, none, 1, 1⟩⟩)),
    .bySuperuser (.slas (.update ⟨1, some ⟨"silver", "", 2, 1, none, 1, 1⟩, []⟩))]

theorem reversedWindow_unchanged : (reversedWindow.before 2) = (reversedWindow.before 1) := by
  have hfails : (reversedWindow[1].outcome (reversedWindow.before 1)).1 =
      .error .windowReversed := by rfl
  exact (Call.unchanged _ _ _).1 _ hfails

end CaseDesk
