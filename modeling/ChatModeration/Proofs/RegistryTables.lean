/-
ChatModeration.Proofs.RegistryTables — what calls leave in a registry.

A registry keeps two tables: one by name, in which a list that is registered
later takes the place of an earlier one of the same name, and one by event, in
which every list stands at most once.  `Registry.Call` is a call that changes
one of them, and lists are told apart by their handles, not by their names.

The main statement is `tables_after`: both tables in terms of the calls alone,
after any sequence of calls.
-/
import ChatModeration.Proofs.BuiltCatalogue
import ChatModeration.Proofs.KeyedTables

namespace ChatModeration

namespace Registry

/-! ## § Calls -/

/-- A call that changes a registry. -/
inductive Call where
  /-- A list is put under its own name. -/
  | register (h : ListHandle)
  /-- A list is subscribed to events, be they its own or others. -/
  | subscribe (h : ListHandle) (events : List FilterEvent)

/-- The list that a call registers. -/
def Call.registered? : Call → Option ListHandle
  | register h => some h
  | subscribe .. => none

/-- The list that a call subscribes to an event. -/
def Call.subscribed? (e : FilterEvent) : Call → Option ListHandle
  | register _ => none
  | subscribe h events => if e ∈ events then some h else none

/-- The lists that are registered, from the first to the last. -/
def registrations (calls : List Call) : List ListHandle := calls.filterMap Call.registered?

/-- The lists that are subscribed to an event, from the first to the last. -/
def subscriptions (e : FilterEvent) (calls : List Call) : List ListHandle :=
  calls.filterMap (Call.subscribed? e)

variable (name : ListHandle → Text)

/-- The registry after a call, where each list has a name. -/
def after (r : Registry) : Call → Registry
  | .register h => r.register (name h) h
  | .subscribe h events => r.subscribeAll h events

/-- A new registry after calls. -/
def afterAll (calls : List Call) : Registry := calls.foldl (after name) empty

/-- The one of some lists that comes last among those of a name. -/
def lastNamed? (lists : List ListHandle) (n : Text) : Option ListHandle :=
  lists.reverse.find? (name · = n)

/-! ## § The table of names -/

section Names

variable {names : List (Text × ListHandle)} {n m : Text} {h : ListHandle}

theorem keys_putName (names : List (Text × ListHandle)) (n : Text) (h : ListHandle) :
    (putName names n h).map (·.1) =
      if n ∈ names.map (·.1) then names.map (·.1) else names.map (·.1) ++ [n] := by
  induction names with
  | nil => rfl
  | cons entry rest ih =>
    rw [putName]
    by_cases heq : entry.1 = n
    · simp [heq]
    · simp only [if_neg heq, List.map_cons, ih, List.mem_cons, Ne.symm heq, false_or]
      split <;> rfl

theorem lookup_putName (names : List (Text × ListHandle)) (n m : Text) (h : ListHandle) :
    (putName names n h).lookup m = if m = n then some h else names.lookup m := by
  induction names with
  | nil => exact lookup_cons_eq (n, h) [] m
  | cons entry rest ih =>
    rw [putName, lookup_cons_eq entry]
    by_cases hentry : entry.1 = n
    · rw [if_pos hentry, lookup_cons_eq, hentry]
      split <;> rfl
    · rw [if_neg hentry, lookup_cons_eq, ih]
      by_cases hm : m = n
      · rw [if_pos hm, if_pos hm, if_neg (hm ▸ Ne.symm hentry)]
      · rw [if_neg hm, if_neg hm]

end Names

/-- What a name stands for when a list has been registered. -/
theorem get?_register (r : Registry) (n m : Text) (h : ListHandle) :
    (r.register n h).get? m = if m = n then some h else r.get? m := lookup_putName _ _ _ _

/-! ## § One more call -/

/-- The tables of a registry are those of the calls. -/
structure Tables (calls : List Call) (r : Registry) : Prop where
  subscribers : ∀ e, r.subscribers e = (subscriptions e calls).eraseDups
  keys : r.names.map (·.1) = ((registrations calls).map name).eraseDups
  get? : ∀ n, r.get? n = lastNamed? name (registrations calls) n

variable {name} {calls : List Call} {r : Registry}

theorem lastNamed?_concat (lists : List ListHandle) (h : ListHandle) (n : Text) :
    lastNamed? name (lists ++ [h]) n = if n = name h then some h else lastNamed? name lists n := by
  rw [lastNamed?, List.reverse_append, List.reverse_singleton, List.singleton_append,
    List.find?_cons]
  by_cases heq : name h = n
  · simp [heq]
  · simp [heq, Ne.symm heq, lastNamed?]

/-- One more call registers at most one list. -/
theorem registrations_concat (calls : List Call) (call : Call) :
    registrations (calls ++ [call]) = registrations calls ++ call.registered?.toList := by
  cases h : call.registered? <;> simp [registrations, h]

/-- One more call subscribes at most one list to an event. -/
theorem subscriptions_concat (e : FilterEvent) (calls : List Call) (call : Call) :
    subscriptions e (calls ++ [call]) = subscriptions e calls ++ (call.subscribed? e).toList := by
  cases h : call.subscribed? e <;> simp [subscriptions, h]

theorem Tables.register (hr : Tables name calls r) (h : ListHandle) :
    Tables name (calls ++ [.register h]) (r.register (name h) h) := by
  have hlists : registrations (calls ++ [.register h]) = registrations calls ++ [h] :=
    registrations_concat calls _
  refine ⟨fun e => ?_, ?_, fun n => ?_⟩
  · rw [subscriptions_concat]
    exact (hr.subscribers e).trans (congrArg List.eraseDups (List.append_nil _).symm)
  · have hkeys := keys_putName r.names (name h) h
    rw [hr.keys] at hkeys
    simp only [List.mem_eraseDups] at hkeys
    rw [hlists, List.map_append, List.map_singleton, eraseDups_concat]
    exact hkeys
  · rw [hlists, lastNamed?_concat, ← hr.get?, get?_register]

theorem Tables.subscribe (hr : Tables name calls r) (h : ListHandle) (events : List FilterEvent) :
    Tables name (calls ++ [.subscribe h events]) (r.subscribeAll h events) := by
  have hlists : registrations (calls ++ [.subscribe h events]) = registrations calls :=
    (registrations_concat calls _).trans (List.append_nil _)
  refine ⟨fun e => ?_, ?_, fun n => ?_⟩
  · rw [subscribeAll_subscribers, subscriptions_concat, hr.subscribers]
    by_cases he : e ∈ events
    · rw [Call.subscribed?, if_pos he, Option.toList_some, eraseDups_concat]
      simp [he]
    · simp [Call.subscribed?, he]
  · rw [hlists, subscribeAll_names, hr.keys]
  · rw [hlists, Registry.get?, subscribeAll_names]
    exact hr.get? n

theorem Tables.after (hr : Tables name calls r) (call : Call) :
    Tables name (calls ++ [call]) (r.after name call) := by
  cases call with
  | register h => exact hr.register h
  | subscribe h events => exact hr.subscribe h events

theorem Tables.afterAll (name : ListHandle → Text) (calls : List Call) :
    Tables name calls (afterAll name calls) := by
  induction calls using List.reverseRecOn with
  | nil => exact ⟨fun _ => rfl, rfl, fun _ => rfl⟩
  | append_singleton calls call ih =>
    rw [Registry.afterAll, List.foldl_append]
    exact ih.after call

/-! ## § All calls -/

/-- The named lists are those that their names stand for. -/
theorem Tables.all (hr : Tables name calls r) :
    r.all.map some = (r.names.map (·.1)).map r.get? := by
  have hnodup : (r.names.map (·.1)).Nodup := hr.keys ▸ nodup_eraseDups _
  rw [Registry.all, List.map_map, List.map_map]
  exact List.map_congr_left fun entry hentry => (lookup_of_nodup hnodup hentry).symm

/-- **What calls leave in a registry.**  The subscribers of an event are the lists that were ever
subscribed to it, once each and in the order of their first subscriptions.  A name stands for the
list that was registered last under it, and the named lists stand in the order in which their names
were first registered.  Registering leaves the subscribers as they are, and subscribing the names. -/
theorem tables_after (name : ListHandle → Text) (calls : List Call) :
    let r := afterAll name calls
    let lists := registrations calls
    (∀ e, r.subscribers e = (subscriptions e calls).eraseDups) ∧
      (∀ n, r.get? n = lastNamed? name lists n) ∧
      r.all.map some = (lists.map name).eraseDups.map (lastNamed? name lists) ∧
      r.size = r.all.length ∧
      ∀ (r : Registry) (h : ListHandle), (r.after name (.register h)).subscribers = r.subscribers ∧
        ∀ events, (r.after name (.subscribe h events)).names = r.names := by
  intro r lists
  have hr : Tables name calls r := .afterAll name calls
  refine ⟨hr.subscribers, hr.get?, ?_, ?_, fun r h => ⟨rfl, fun events => ?_⟩⟩
  · rw [hr.all, hr.keys]
    exact List.map_congr_left fun n _ => hr.get? n
  · rw [size, Registry.all, List.length_map]
  · exact subscribeAll_names r h events

end Registry

end ChatModeration
