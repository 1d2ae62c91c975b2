import PgMaintainer.Interaction.Parties
import PgMaintainer.Operations.Discovery
import PgMaintainer.Rules

/-!
# The concurrency guard

Sessions that ask one server for the advisory lock of their schemas. The key of the lock is a hash
of the whole list, so it excludes the sessions with the same key, and no others: two lists may share
a schema and have different keys.
-/

namespace PgMaintainer

open Interaction

variable {ι : Type} [DecidableEq ι]

/-! ## The server -/

/-- A session may have a lock that is free, or that it has already. -/
def MayLock (i : ι) (locks : Int32 → Option ι) (id : Int32) : Prop :=
  locks id = none ∨ locks id = some i

/-- The server, with the session that has the lock of each key. A call may fail, also after the lock
was taken. A session that leaves has its locks released; nothing else releases one. -/
abbrev lockServer (hashtext : String → Int32) : Common session ι where
  State := Int32 → Option ι
  Answers i locks op answer after :=
    match op with
    | .call (.hashtext text) => after = locks ∧ ∀ id, answer = .ok id → id = hashtext text
    | .call (.tryAdvisoryLock id) =>
      answer = .ok true ∧ MayLock i locks id ∧ after = Function.update locks id (some i) ∨
        answer = .ok false ∧ ¬MayLock i locks id ∧ after = locks ∨
        (∃ err, answer = .error err) ∧
          (after = locks ∨ MayLock i locks id ∧ after = Function.update locks id (some i))
    | _ => after = locks
  Leaves i locks after := after = fun id => if locks id = some i then none else locks id

/-- The key of a list of schemas. -/
def schemaLockId (hashtext : String → Int32) (schemas : List String) : Int32 :=
  hashtext (",".intercalate schemas)

/-- No lock is taken, and each session is about to ask for the lock of its schemas. What a session
does behind the guard takes and releases no lock, and is left out. -/
def aboutToLock (hashtext : String → Int32) (schemas : ι → List String) :
    Config (lockServer (ι := ι) hashtext) AnyError Unit where
  state _ := none
  left i := some (tryAcquireSchemaLock (schemas i))

/-- The session is connected and its guard has returned `Ok`. -/
def BehindGuard {hashtext : String → Int32} (c : Config (lockServer (ι := ι) hashtext) AnyError Unit)
    (i : ι) : Prop := c.left i = some (.pure ())

/-! ## One session -/

section Session

variable {hashtext : String → Int32} {i j : ι} {locks after : Int32 → Option ι} {id : Int32}

/-- An operation leaves the locks as they are, or takes one that the session may have. -/
theorem locks_after {op : Op} {answer : op.Answer}
    (h : (lockServer hashtext).Answers i locks op answer after) :
    after = locks ∨ ∃ id, MayLock i locks id ∧ after = Function.update locks id (some i) := by
  cases op with
  | call c =>
      cases c with
      | hashtext text => exact .inl h.1
      | tryAdvisoryLock id =>
          obtain ⟨-, hmay, rfl⟩ | ⟨-, -, rfl⟩ | ⟨-, rfl | ⟨hmay, rfl⟩⟩ := h
          · exact .inr ⟨id, hmay, rfl⟩
          · exact .inl rfl
          · exact .inl rfl
          · exact .inr ⟨id, hmay, rfl⟩
      | _ => exact .inl h
  | _ => exact .inl h

/-- No other session takes or releases a lock that a session has. -/
theorem locked_drift (h : ((lockServer hashtext).world i).Drift locks after)
    (hlocked : locks id = some i) : after id = some i := by
  obtain ⟨j, hj, ⟨op, answer, hanswer⟩ | hleaves⟩ := h
  · obtain rfl | ⟨id', hmay, rfl⟩ := locks_after hanswer
    · exact hlocked
    · have hne : id ≠ id' := by
        intro heq
        subst heq
        obtain hnone | hown := hmay
        · cases hlocked.symm.trans hnone
        · exact hj (Option.some.inj (hown.symm.trans hlocked))
      rw [Function.update_of_ne hne, hlocked]
  · have hne : locks id ≠ some j := by
      intro hown
      exact hj (Option.some.inj (hown.symm.trans hlocked))
    rw [show after = _ from hleaves]
    exact (if_neg hne).trans hlocked

/-- What the others do takes no lock away. -/
theorem locked_drifts (h : ((lockServer hashtext).world i).Drifts locks after)
    (hlocked : locks id = some i) : after id = some i := by
  induction h with
  | refl => exact hlocked
  | tail _ hstep ih => exact locked_drift hstep ih

/-- A guard that returns `Ok` has the lock. -/
theorem wp_try_acquire (schemas : List String) {past : Trace ((lockServer hashtext).world i)} :
    wp ((lockServer hashtext).world i) (fun _ _ => True) (tryAcquireSchemaLock schemas)
      (fun _ _ locks => locks (schemaLockId hashtext schemas) = some i) (fun _ _ _ => True)
      past locks := by
  refine wp_bind.2 (wp_queryContext.2 (wp_call.2 fun now _ answer after hanswer => ⟨trivial, ?_⟩))
  cases answer with
  | error err => trivial
  | ok id =>
      obtain rfl : id = schemaLockId hashtext schemas := hanswer.2 id rfl
      refine wp_bind.2 (wp_queryContext.2 (wp_call.2 ?_))
      intro now _ answer after hanswer
      refine ⟨trivial, ?_⟩
      obtain ⟨rfl, -, rfl⟩ | ⟨rfl, -, rfl⟩ | ⟨⟨err, rfl⟩, -⟩ := hanswer
      · exact Function.update_self ..
      · trivial
      · trivial

end Session

/-! ## Several sessions -/

section Sessions

variable {hashtext : String → Int32} {schemas : ι → List String} {i j : ι}
  {c : Config (lockServer (ι := ι) hashtext) AnyError Unit}

/-- A guarded session has the lock of its schemas. -/
theorem locked_behind_guard (h : (aboutToLock hashtext schemas).Reaches c) (hi : BehindGuard c i) :
    c.state (schemaLockId hashtext (schemas i)) = some i := by
  obtain ⟨past, before, hdrifts, hlocked⟩ := h.returned (fun p hp => by
    obtain rfl := Option.some.inj hp
    exact wp_try_acquire (schemas i)) hi
  exact locked_drifts hdrifts hlocked

/-- A session whose lock is free may go through its guard. -/
theorem reaches_behind_guard {own : List String}
    (hstart : c.left i = some (tryAcquireSchemaLock own))
    (hfree : c.state (schemaLockId hashtext own) = none) :
    c.Reaches (c.set i (some (.pure ()))
      (Function.update c.state (schemaLockId hashtext own) (some i))) := by
  have hhash : ∃ next, c.Step (c.set i
      (some (.perform (.call (.tryAdvisoryLock (schemaLockId hashtext own))) next)) c.state) ∧
        next (.ok true) = .pure () := by
    have hanswer : (lockServer hashtext).Answers i c.state (.call (.hashtext (",".intercalate own)))
        (.ok (schemaLockId hashtext own)) c.state :=
      ⟨rfl, fun id h => (Except.ok.inj h).symm⟩
    exact ⟨_, .act hstart hanswer, rfl⟩
  obtain ⟨next, hhash, hnext⟩ := hhash
  have hanswer : (lockServer hashtext).Answers i c.state
      (.call (.tryAdvisoryLock (schemaLockId hashtext own))) (.ok true)
      (Function.update c.state (schemaLockId hashtext own) (some i)) :=
    .inl ⟨rfl, .inl hfree, rfl⟩
  have hleft : (c.set i (some (.perform (.call (.tryAdvisoryLock (schemaLockId hashtext own))) next))
      c.state).left i = some (.perform _ next) := Config.set_left
  have hlock := Config.Step.act hleft hanswer
  rw [Config.set_set, hnext] at hlock
  exact (Relation.ReflTransGen.single hhash).tail hlock

/-- Two sessions with different keys may both go through their guards. -/
theorem both_behind_guard (hne : i ≠ j)
    (hkeys : schemaLockId hashtext (schemas i) ≠ schemaLockId hashtext (schemas j)) :
    ∃ c, (aboutToLock hashtext schemas).Reaches c ∧ BehindGuard c i ∧ BehindGuard c j := by
  have hfirst := reaches_behind_guard (c := aboutToLock hashtext schemas) (i := i) rfl rfl
  have hleft : ((aboutToLock hashtext schemas).set i (some (.pure ())) (Function.update
      (aboutToLock hashtext schemas).state (schemaLockId hashtext (schemas i))
      (some i))).left j = some (tryAcquireSchemaLock (schemas j)) :=
    Config.set_left_of_ne hne.symm
  have hsecond := reaches_behind_guard hleft (Function.update_of_ne (Ne.symm hkeys) ..)
  refine ⟨_, hfirst.trans hsecond, ?_, Config.set_left⟩
  exact (Config.set_left_of_ne hne).trans Config.set_left

/-- Two sessions are never both behind their guards if and only if their lists have the same
key. -/
theorem schema_lock_excludes_iff (hne : i ≠ j) :
    (∀ c, (aboutToLock hashtext schemas).Reaches c → ¬(BehindGuard c i ∧ BehindGuard c j)) ↔
      schemaLockId hashtext (schemas i) = schemaLockId hashtext (schemas j) := by
  constructor
  · intro h
    by_contra hkeys
    obtain ⟨c, hreaches, hboth⟩ := both_behind_guard hne hkeys
    exact h c hreaches hboth
  · intro hkeys c hreaches hboth
    have hi := locked_behind_guard hreaches hboth.1
    have hj := locked_behind_guard hreaches hboth.2
    rw [hkeys, hj] at hi
    exact hne (Option.some.inj hi).symm

end Sessions

/-- A hash that tells texts of different lengths apart. -/
def lengthHash (text : String) : Int32 := .ofNat text.length

/-- Two sessions for one list exclude each other. -/
theorem same_list_excluded : ¬∃ c, (aboutToLock lengthHash fun _ : Bool => ["public"]).Reaches c ∧
    BehindGuard c false ∧ BehindGuard c true := by
  intro h
  obtain ⟨c, hreaches, hboth⟩ := h
  have hne : false ≠ true := by decide
  exact (schema_lock_excludes_iff hne).2 rfl c hreaches hboth

/-- Two lists that share a schema. -/
def overlapping : Bool → List String
  | false => ["public"]
  | true => ["public", "audit"]

/-- Two sessions are connected and behind their guards, both for the same schema. -/
theorem overlapping_lists_not_excluded :
    "public" ∈ overlapping false ∧ "public" ∈ overlapping true ∧
      ∃ c, (aboutToLock lengthHash overlapping).Reaches c ∧ BehindGuard c false ∧ BehindGuard c true :=
  ⟨by decide, by decide, both_behind_guard (by decide) (by decide)⟩

end PgMaintainer
