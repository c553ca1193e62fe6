import Mathlib.Data.List.Nodup
import Mathlib.Data.List.Perm.Basic
import Polyquery.Proofs.Postgres.History

/-!
# The pool of the PostgreSQL client

A pool that nobody else touches has every connection either waiting or held, and none of
them twice.  So it hands out only connections that nobody holds, and any calls one after
the other make a history.
-/

namespace Polyquery.Postgres

/-- Different connections that have been made. -/
structure Apart (connections : List Nat) (made : Nat) : Prop where
  nodup : connections.Nodup
  le : ∀ connection ∈ connections, connection ≤ made

namespace Apart

variable {connections others : List Nat} {made : Nat}

theorem perm (apart : Apart connections made) (same : connections.Perm others) :
    Apart others made where
  nodup := same.nodup apart.nodup
  le connection mem := apart.le connection (same.mem_iff.mpr mem)

theorem sublist (apart : Apart connections made) (fewer : others.Sublist connections) :
    Apart others made where
  nodup := apart.nodup.sublist fewer
  le connection mem := apart.le connection (fewer.subset mem)

/-- A connection that is made now is none of those made before. -/
theorem next (apart : Apart connections made) : Apart ((made + 1) :: connections) (made + 1) where
  nodup := by
    rw [List.nodup_cons]
    constructor
    · intro mem
      exact Nat.not_succ_le_self made (apart.le (made + 1) mem)
    · exact apart.nodup
  le := by
    rw [List.forall_mem_cons]
    exact ⟨Nat.le_refl _, fun connection mem => Nat.le_succ_of_le (apart.le connection mem)⟩

end Apart

namespace Link

variable {link taken : Link} {connection : Nat}

/-- The connections of a client, waiting or held. -/
def connections (link : Link) : List Nat :=
  link.idle ++ link.held.map Prod.snd

/-- Every connection of a client is there once. -/
def Sound (link : Link) : Prop :=
  Apart link.connections link.made

/-- A connection that was taken is there once beside those that are left. -/
theorem Sound.acquire (sound : link.Sound) (acquired : acquire.run link = (.ok connection, taken)) :
    Apart (connection :: taken.connections) taken.made := by
  rcases link.acquire_cases with ⟨_, eq⟩ | ⟨_, _, idle, eq⟩ | ⟨-, eq⟩
  all_goals
    rw [eq] at acquired
    cases acquired
  · rw [Sound, connections, idle] at sound
    exact sound
  · exact Apart.next sound

theorem Sound.handsOutFree (sound : link.Sound) : link.HandsOutFree := by
  intro connection taken acquired mem
  have apart := sound.acquire acquired
  obtain ⟨_, _, rfl⟩ := of_acquire_ok acquired
  exact (List.nodup_cons.mp apart.nodup).1 (List.mem_append_right _ mem)

end Link

/-- A call keeps every connection there once. -/
theorem Effect.sound {link after : Link} {call : Call} {result : Result Answer}
    {messages : List Sent} (effect : Effect link call result messages after)
    (sound : link.Sound) : after.Sound := by
  cases effect with
  | foreign | unknown | unacquired => exact sound
  | tagged asks carries held answers talk =>
      obtain ⟨-, _, _, rfl⟩ := talk
      exact sound
  | borrowed asks loose acquired answers talk =>
      obtain ⟨-, _, _, rfl⟩ := talk
      apply (sound.acquire acquired).perm
      rw [Link.connections, Link.connections, List.append_assoc]
      exact List.perm_middle.symm
  | unstarted acquired begun =>
      apply (sound.acquire acquired).perm
      rw [Link.connections, Link.connections, List.append_assoc]
      exact List.perm_middle.symm
  | @started isolation readOnly connection taken messages server acquired begun =>
      apply (sound.acquire acquired).perm
      rw [Link.connections, Link.connections, List.map_append, ← List.append_assoc]
      exact (List.perm_append_singleton _ _).symm
  | @finished call handle statement connection ended ends held =>
      -- the entry of the handle goes to the end of the line, and none else is lost
      obtain ⟨before, behind, split, -⟩ := List.lookup_eq_some_iff.mp held
      have moved : link.connections.Perm
          (link.idle ++ [connection] ++ (before ++ behind).map Prod.snd) := by
        rw [Link.connections, split, List.map_append, List.map_cons, List.map_append,
          List.append_assoc, List.singleton_append]
        exact List.perm_middle.append_left link.idle
      apply (sound.perm moved).sublist
      rw [Link.connections, split, List.filter_append, List.filter_cons_of_neg (by simp),
        ← List.filter_append]
      exact (List.filter_sublist.map Prod.snd).append_left _
  | closed => exact ⟨List.nodup_nil, nofun⟩

/-! ## Calls one after the other -/

namespace Link

/-- The events of some calls. -/
def events : List Call → Link → List Event
  | [], _ => []
  | call :: rest, link => ⟨call, link⟩ :: events rest (Event.after ⟨call, link⟩)

/-- The client after some calls. -/
def afterAll : List Call → Link → Link
  | [], link => link
  | call :: rest, link => afterAll rest (Event.after ⟨call, link⟩)

theorem map_call_events (calls : List Call) (link : Link) :
    (link.events calls).map Event.call = calls := by
  induction calls generalizing link with
  | nil => rfl
  | cons call rest ih => rw [events, List.map_cons, ih]

end Link

/-- Calls continue the history of a client whose connections are all there once. -/
theorem History.append_events {replies : List (Server.Reply ColumnType)}
    {inferences : List (Except DatabaseFailure (List ColumnType))} {past : List Event} {link : Link}
    (history : History replies inferences past link) (sound : link.Sound) (calls : List Call) :
    History replies inferences (past ++ link.events calls) (link.afterAll calls) := by
  induction calls generalizing past link with
  | nil =>
      rw [Link.events, List.append_nil]
      exact history
  | cons call rest ih =>
      have called := history.call call ⟨link.idle, link.made, link.server.refusal⟩
        sound.handsOutFree
      have more := ih called ((Event.effect ⟨call, link⟩).sound sound)
      rw [List.append_assoc] at more
      exact more

/-- Any calls make a history. -/
theorem history_events (replies : List (Server.Reply ColumnType))
    (inferences : List (Except DatabaseFailure (List ColumnType))) (calls : List Call) :
    History replies inferences
      (Link.events calls (.unconnected (.fresh replies inferences none)))
      (Link.afterAll calls (.unconnected (.fresh replies inferences none))) :=
  History.append_events .fresh ⟨List.nodup_nil, nofun⟩ calls

end Polyquery.Postgres
