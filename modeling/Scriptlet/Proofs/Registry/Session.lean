import Scriptlet.Proofs.Registry.Storage

/-!
# Sessions with registries

A session is a sequence of commands that create registries, copy them and register items in them, where
copies share their storage until they are written. Every registry has a history: the items of its origin,
and those registered since in itself or, before it was copied, in its source.

A registry is what its history makes of it, as if nothing had ever been shared (`faithful_run`), and a
command has an effect on one registry and on no other (`isolated_run`).
-/

set_option autoImplicit false

namespace Scriptlet

/-- What can be done with registries, which go by their numbers. -/
inductive Command (Origin Item : Type) where
  | create (origin : Origin)
  | copy (source : Nat)
  | register (target : Nat) (item : Item)

/-- The registry with one more item, unless it refuses that. -/
def Registrar.keep {Item Registry Refusal : Type} (enter : Registry → Item → Except Refusal Registry)
    (registry : Registry) (item : Item) : Registry :=
  match enter registry item with
  | .ok next => next
  | .error _ => registry

/-- A kind of registry: how it takes an item or refuses it, and what it is at its origin, which is an empty
registry with some items. -/
structure Registrar (Origin Item Registry Refusal : Type) where
  enter : Registry → Item → Except Refusal Registry
  empty : Registry
  start : Origin → Registry
  initial : Origin → List Item
  starts : ∀ origin, start origin = (initial origin).foldl (Registrar.keep enter) empty

/-- The storage of all registries, and the history of each: the items of its origin and those registered
since. -/
structure Session (Item Registry : Type) where
  storage : Storage Registry
  histories : List (List Item)

namespace Registrar

variable {Origin Item Registry Refusal : Type}

/-- The histories after a command that has been obeyed. -/
def record (registrar : Registrar Origin Item Registry Refusal) (histories : List (List Item)) :
    Command Origin Item → List (List Item)
  | .create origin => histories ++ [registrar.initial origin]
  | .copy source => histories ++ histories[source]?.toList
  | .register target item => histories.modify target (· ++ [item])

/-- The storage after a command, and whether the command is obeyed. -/
def obey (registrar : Registrar Origin Item Registry Refusal) (storage : Storage Registry) :
    Command Origin Item → Storage Registry × Except Refusal Unit
  | .create origin => (storage.create (registrar.start origin), .ok ())
  | .copy source => (storage.share source, .ok ())
  | .register target item =>
    match storage.view target with
    | none => (storage, .ok ())
    | some registry =>
      match registrar.enter registry item with
      | .ok next => (storage.write target next, .ok ())
      | .error refusal => (storage, .error refusal)

/-- The session after a command. What is refused is no part of any history. -/
def step (registrar : Registrar Origin Item Registry Refusal) (session : Session Item Registry)
    (command : Command Origin Item) : Session Item Registry :=
  match registrar.obey session.storage command with
  | (storage, .ok ()) => ⟨storage, registrar.record session.histories command⟩
  | (storage, .error _) => ⟨storage, session.histories⟩

/-- The session after some commands. -/
def run (registrar : Registrar Origin Item Registry Refusal) (commands : List (Command Origin Item)) :
    Session Item Registry :=
  commands.foldl registrar.step ⟨.empty, []⟩

/-- What a history makes of a registry. -/
def replay (registrar : Registrar Origin Item Registry Refusal) (history : List Item) : Registry :=
  history.foldl (keep registrar.enter) registrar.empty

variable {registrar : Registrar Origin Item Registry Refusal}
variable {session : Session Item Registry} {history : List Item} {command : Command Origin Item}
variable {registry next : Registry} {item : Item} {refusal : Refusal} {target handle : Nat}

theorem run_concat (registrar : Registrar Origin Item Registry Refusal)
    (commands : List (Command Origin Item)) (command : Command Origin Item) :
    registrar.run (commands ++ [command]) = registrar.step (registrar.run commands) command :=
  List.foldl_append

/-! ## Single commands -/

theorem step_of_obeyed {storage : Storage Registry}
    (obeyed : registrar.obey session.storage command = (storage, .ok ())) :
    registrar.step session command = ⟨storage, registrar.record session.histories command⟩ := by
  simp only [step, obeyed]

theorem obey_register (shown : session.storage.view target = some registry)
    (taken : registrar.enter registry item = .ok next) :
    registrar.obey session.storage (.register target item) =
      (session.storage.write target next, .ok ()) := by
  simp only [obey, shown, taken]

theorem obey_register_of_refused (shown : session.storage.view target = some registry)
    (refused : registrar.enter registry item = .error refusal) :
    registrar.obey session.storage (.register target item) = (session.storage, .error refusal) := by
  simp only [obey, shown, refused]

/-- What is refused changes nothing. -/
theorem step_register_of_refused (shown : session.storage.view target = some registry)
    (refused : registrar.enter registry item = .error refusal) :
    registrar.step session (.register target item) = session := by
  rw [step, obey_register_of_refused shown refused]

theorem step_register_of_absent (absent : session.storage.view target = none) :
    registrar.step session (.register target item) =
      ⟨session.storage, registrar.record session.histories (.register target item)⟩ := by
  simp only [step, obey, absent]

theorem getElem?_record_register (histories : List (List Item)) (target handle : Nat)
    (item : Item) :
    (registrar.record histories (.register target item))[handle]? =
      if handle = target then histories[handle]?.map (· ++ [item]) else histories[handle]? := by
  rw [record, List.getElem?_modify]
  by_cases same : handle = target
  · rw [if_pos same, same]
    simp
  · simp [same, Ne.symm same]

theorem replay_concat (taken : registrar.enter (registrar.replay history) item = .ok next) :
    registrar.replay (history ++ [item]) = next := by
  have entered : keep registrar.enter (registrar.replay history) item = next := by
    rw [keep, taken]
  rw [replay, List.foldl_append]
  exact entered

/-! ## Registries are what their histories make of them -/

/-- Every registry is what its history makes of it. -/
def Faithful (registrar : Registrar Origin Item Registry Refusal)
    (session : Session Item Registry) : Prop :=
  ∀ handle, session.storage.view handle = session.histories[handle]?.map registrar.replay

namespace Faithful

/-- There are as many histories as registries. -/
theorem size_eq (faithful : registrar.Faithful session) :
    session.storage.size = session.histories.length := by
  refine eq_of_forall_lt_iff fun handle => ?_
  rw [← Storage.isSome_view, faithful handle, Option.isSome_map]
  simp

theorem create (faithful : registrar.Faithful session) (origin : Origin) :
    registrar.Faithful (registrar.step session (.create origin)) := by
  intro handle
  have known : (registrar.record session.histories (.create origin))[handle]? =
      if handle = session.histories.length then some (registrar.initial origin)
      else session.histories[handle]? :=
    Storage.getElem?_append_toList session.histories (some (registrar.initial origin)) handle
  rw [step_of_obeyed rfl, Storage.view_create, known, faithful.size_eq, faithful handle,
    registrar.starts]
  split <;> rfl

theorem copy (faithful : registrar.Faithful session) (source : Nat) :
    registrar.Faithful (registrar.step session (.copy source)) := by
  intro handle
  have known : (registrar.record session.histories (.copy source))[handle]? =
      if handle = session.histories.length then session.histories[source]?
      else session.histories[handle]? :=
    Storage.getElem?_append_toList session.histories session.histories[source]? handle
  rw [step_of_obeyed rfl, Storage.view_share, known, faithful.size_eq, faithful handle,
    faithful source]
  split <;> rfl

theorem register (faithful : registrar.Faithful session) (target : Nat) (item : Item) :
    registrar.Faithful (registrar.step session (.register target item)) := by
  have shows := faithful target
  cases shown : session.storage.view target with
  | none =>
    -- Without a registry there is no history to add to.
    rw [shown, eq_comm, Option.map_eq_none_iff] at shows
    rw [step_register_of_absent shown]
    intro handle
    rw [getElem?_record_register, faithful handle]
    split
    · rename_i same
      rw [same, shows]
      rfl
    · rfl
  | some registry =>
    rw [shown, eq_comm, Option.map_eq_some_iff] at shows
    obtain ⟨history, known, rfl⟩ := shows
    cases entered : registrar.enter (registrar.replay history) item with
    | error refusal =>
      rw [step_register_of_refused shown entered]
      exact faithful
    | ok next =>
      have within := Storage.isSome_view.mp (Option.isSome_of_eq_some shown)
      rw [step_of_obeyed (obey_register shown entered)]
      intro handle
      rw [Storage.view_write within, getElem?_record_register, faithful handle]
      split
      · rename_i same
        rw [same, known, Option.map_some, Option.map_some, replay_concat entered]
      · rfl

/-- One command keeps every registry what its history makes of it. -/
theorem step (faithful : registrar.Faithful session) (command : Command Origin Item) :
    registrar.Faithful (registrar.step session command) := by
  cases command with
  | create origin => exact faithful.create origin
  | copy source => exact faithful.copy source
  | register target item => exact faithful.register target item

end Faithful

/-- After any commands, every registry is what its history makes of it. -/
theorem faithful_run (registrar : Registrar Origin Item Registry Refusal)
    (commands : List (Command Origin Item)) : registrar.Faithful (registrar.run commands) := by
  suffices kept : ∀ session, registrar.Faithful session →
      registrar.Faithful (commands.foldl registrar.step session) by
    exact kept ⟨.empty, []⟩ fun _ => rfl
  induction commands with
  | nil => exact fun session faithful => faithful
  | cons command rest ih => exact fun session faithful => ih _ (faithful.step command)

/-! ## Registries change by their own registrations only -/

/-- What a command makes of a registry: nothing else, unless it registers an item in it. -/
theorem exists_view_step (registrar : Registrar Origin Item Registry Refusal)
    (shown : session.storage.view handle = some registry) (command : Command Origin Item) :
    ∃ next, (registrar.step session command).storage.view handle = some next ∧
      (next = registry ∨
        ∃ item, command = .register handle item ∧ registrar.enter registry item = .ok next) := by
  have within := Storage.isSome_view.mp (Option.isSome_of_eq_some shown)
  cases command with
  | create origin =>
    refine ⟨registry, ?_, .inl rfl⟩
    rw [step_of_obeyed rfl, Storage.view_create, if_neg (Nat.ne_of_lt within), shown]
  | copy source =>
    refine ⟨registry, ?_, .inl rfl⟩
    rw [step_of_obeyed rfl, Storage.view_share, if_neg (Nat.ne_of_lt within), shown]
  | register target item =>
    cases at_ : session.storage.view target with
    | none =>
      refine ⟨registry, ?_, .inl rfl⟩
      rw [step_register_of_absent at_]
      exact shown
    | some other =>
      cases entered : registrar.enter other item with
      | error refusal =>
        refine ⟨registry, ?_, .inl rfl⟩
        rw [step_register_of_refused at_ entered]
        exact shown
      | ok next =>
        have known := Storage.isSome_view.mp (Option.isSome_of_eq_some at_)
        rw [step_of_obeyed (obey_register at_ entered), Storage.view_write known]
        by_cases same : handle = target
        · cases same
          cases at_.symm.trans shown
          exact ⟨next, if_pos rfl, .inr ⟨item, rfl, entered⟩⟩
        · exact ⟨registry, (if_neg same).trans shown, .inl rfl⟩

/-- A command leaves a history alone unless it registers an item in its registry. -/
theorem history_step_of_other (registrar : Registrar Origin Item Registry Refusal)
    (known : session.histories[handle]? = some history)
    (other : ∀ item, command ≠ .register handle item) :
    (registrar.step session command).histories[handle]? = some history := by
  have recorded : (registrar.record session.histories command)[handle]? = some history := by
    have within := (List.getElem?_eq_some_iff.mp known).1
    cases command with
    | create origin => exact (List.getElem?_append_left within).trans known
    | copy source => exact (List.getElem?_append_left within).trans known
    | register target item =>
      rw [getElem?_record_register, if_neg, known]
      rintro rfl
      exact other item rfl
  unfold step
  split
  · exact recorded
  · exact known

/-- The registry with a number, after some commands. -/
def view? (registrar : Registrar Origin Item Registry Refusal)
    (commands : List (Command Origin Item)) (handle : Nat) : Option Registry :=
  (registrar.run commands).storage.view handle

/-- The history of a registry, after some commands: all its items, the first one first. -/
def history? (registrar : Registrar Origin Item Registry Refusal)
    (commands : List (Command Origin Item)) (handle : Nat) : Option (List Item) :=
  (registrar.run commands).histories[handle]?

/-- The number of registries after some commands, which is also that of the next one. -/
def count (registrar : Registrar Origin Item Registry Refusal)
    (commands : List (Command Origin Item)) : Nat :=
  (registrar.run commands).storage.size

/-- What one more command answers. -/
def answer (registrar : Registrar Origin Item Registry Refusal)
    (commands : List (Command Origin Item)) (command : Command Origin Item) : Except Refusal Unit :=
  (registrar.obey (registrar.run commands).storage command).2

/-- After some commands, one more has an effect on one registry, new or not, and on no other. -/
structure Isolated (registrar : Registrar Origin Item Registry Refusal)
    (commands : List (Command Origin Item)) : Prop where
  /-- A new registry is what it is at its origin. -/
  creates : ∀ origin,
    registrar.view? (commands ++ [.create origin]) (registrar.count commands) =
      some (registrar.start origin) ∧
    registrar.history? (commands ++ [.create origin]) (registrar.count commands) =
      some (registrar.initial origin)
  /-- A copy is the registry that its source is, and has its history. -/
  copies : ∀ source,
    registrar.view? (commands ++ [.copy source]) (registrar.count commands) =
      registrar.view? commands source ∧
    registrar.history? (commands ++ [.copy source]) (registrar.count commands) =
      registrar.history? commands source
  /-- A registry that takes an item has it from then on, and its history has it as the last one. -/
  registers : ∀ target registry item next, registrar.view? commands target = some registry →
    registrar.enter registry item = .ok next →
    registrar.answer commands (.register target item) = .ok () ∧
    registrar.view? (commands ++ [.register target item]) target = some next ∧
    registrar.history? (commands ++ [.register target item]) target =
      (registrar.history? commands target).map (· ++ [item])
  /-- What is refused changes nothing. -/
  refuses : ∀ target registry item refusal, registrar.view? commands target = some registry →
    registrar.enter registry item = .error refusal →
    registrar.answer commands (.register target item) = .error refusal ∧
    registrar.run (commands ++ [.register target item]) = registrar.run commands
  /-- Other commands than its own registrations leave a registry alone, and its history. -/
  others : ∀ handle registry command, registrar.view? commands handle = some registry →
    (∀ item, command ≠ .register handle item) →
    registrar.view? (commands ++ [command]) handle = some registry ∧
    registrar.history? (commands ++ [command]) handle = registrar.history? commands handle

variable {commands : List (Command Origin Item)}

/-- Every registry has a history, and is what that makes of it. -/
theorem exists_history (shown : registrar.view? commands handle = some registry) :
    ∃ history, registrar.history? commands handle = some history ∧
      registrar.replay history = registry := by
  rw [view?, registrar.faithful_run commands handle] at shown
  exact Option.map_eq_some_iff.mp shown

theorem isolated_run (registrar : Registrar Origin Item Registry Refusal)
    (commands : List (Command Origin Item)) : registrar.Isolated commands where
  creates origin := by
    rw [view?, history?, run_concat, step_of_obeyed rfl, Storage.view_create]
    refine ⟨if_pos rfl, ?_⟩
    rw [count, (registrar.faithful_run commands).size_eq]
    exact List.getElem?_concat_length
  copies source := by
    rw [view?, history?, run_concat, step_of_obeyed rfl, Storage.view_share]
    refine ⟨if_pos rfl, ?_⟩
    rw [count, (registrar.faithful_run commands).size_eq]
    exact (Storage.getElem?_append_toList _ _ _).trans (if_pos rfl)
  registers target registry item next shown taken := by
    have within := Storage.isSome_view.mp (Option.isSome_of_eq_some shown)
    have obeyed := obey_register shown taken
    rw [answer, view?, history?, run_concat, step_of_obeyed obeyed, obeyed,
      Storage.view_write within, getElem?_record_register]
    exact ⟨rfl, if_pos rfl, if_pos rfl⟩
  refuses target registry item refusal shown refused := by
    rw [answer, run_concat, step_register_of_refused shown refused,
      obey_register_of_refused shown refused]
    exact ⟨rfl, rfl⟩
  others handle registry command shown other := by
    obtain ⟨next, shows, rfl | ⟨item, registers, -⟩⟩ := exists_view_step registrar shown command
    · obtain ⟨history, known, -⟩ := exists_history shown
      rw [view?, history?, run_concat, shows, known]
      exact ⟨rfl, history_step_of_other registrar known other⟩
    · exact absurd registers (other item)

/-- What every registration keeps of a registry is kept by all further commands. -/
theorem exists_view_run {kept : Registry → Prop}
    (keeps : ∀ {registry item next}, kept registry → registrar.enter registry item = .ok next →
      kept next)
    (later : List (Command Origin Item))
    (shown : registrar.view? commands handle = some registry) (holds : kept registry) :
    ∃ next, registrar.view? (commands ++ later) handle = some next ∧ kept next := by
  induction later generalizing commands registry with
  | nil =>
    rw [List.append_nil]
    exact ⟨registry, shown, holds⟩
  | cons command rest ih =>
    obtain ⟨next, shows, change⟩ := exists_view_step registrar shown command
    rw [← run_concat] at shows
    rw [List.append_cons]
    refine ih shows ?_
    rcases change with rfl | ⟨item, -, entered⟩
    · exact holds
    · exact keeps holds entered

end Registrar

end Scriptlet
