import RateLimiter.Redis.Json

namespace rate_limiter.redis

/-- A value with the instance-clock second at which it expires. -/
structure Entry where
  value : Stored
  expireAt : Int

/-- A Redis instance: whether it is reachable, its own clock in seconds, and its keyspace. -/
structure Instance where
  up : Bool
  clock : Int
  store : String → Option Entry

/-- A script that reads and writes only `KEYS[1]`: from the value read there (`nil` if absent)
    it returns its reply, the value it `SET`s and the seconds it passes to `EXPIRE`, or raises
    a Lua error before writing anything. -/
abbrev Script := Option Stored → Except String (Int × Stored × Int)

/-- The live value of a key: `nil` when missing or past its expiry. -/
def Instance.get (inst : Instance) (key : String) : Option Stored :=
  match inst.store key with
  | some e => if inst.clock < e.expireAt then some e.value else none
  | none => none

/-- `SET key value` then `EXPIRE key seconds`. -/
def Instance.setEx (inst : Instance) (key : String) (value : Stored) (seconds : Int) : Instance :=
  { inst with store := Function.update inst.store key (some ⟨value, inst.clock + seconds⟩) }

/-- `EVAL` of a script on `KEYS[1] = key`: it fails without effect when the instance is
    unreachable or the script raises; otherwise Redis runs it atomically, so its write lands
    between two other commands. -/
def Instance.Eval (inst : Instance) (key : String) (script : Script) :
    Except String (Int × Instance) :=
  if inst.up then
    match script (inst.get key) with
    | .ok (reply, value, seconds) => .ok (reply, inst.setEx key value seconds)
    | .error e => .error e
  else .error "dial tcp: connect: connection refused"

/-- Client `GET`: an error when the instance is unreachable, `redis.Nil` when the key has no
    live value. -/
def Instance.Get (inst : Instance) (key : String) : Except String Stored :=
  if inst.up then
    match inst.get key with
    | some v => .ok v
    | none => .error "redis: nil"
  else .error "dial tcp: connect: connection refused"

/-- The instance's clock moves on by `seconds`, expiring what falls due. -/
def Instance.tick (inst : Instance) (seconds : Nat) : Instance :=
  { inst with clock := inst.clock + seconds }

/-- The Go side of both buckets' admission calls (`TryConsume`, `TryAdd`): a negative request
    is refused without a call; otherwise the bucket's script runs on its key, a reply of 1 is
    success, and any error reads as a refusal. -/
def Instance.tryEval (inst : Instance) (key : String) (n : Int) (script : Script) :
    Bool × Instance :=
  if n < 0 then (false, inst)
  else
    match inst.Eval key script with
    | .ok (result, inst) => (result == 1, inst)
    | .error _ => (false, inst)

/-- The Go side of both buckets' `HasState`: whether `GET` of the key succeeds. -/
def Instance.getOk (inst : Instance) (key : String) : Bool :=
  match inst.Get key with
  | .ok _ => true
  | .error _ => false

section Frame

variable {inst : Instance} {key other : String}

@[simp] theorem Instance.setEx_up (v : Stored) (s : Int) : (inst.setEx key v s).up = inst.up := rfl
@[simp] theorem Instance.setEx_clock (v : Stored) (s : Int) :
    (inst.setEx key v s).clock = inst.clock := rfl

/-- A write to one key leaves every other key's value and expiry as they were. -/
theorem Instance.setEx_store_of_ne (h : other ≠ key) (v : Stored) (s : Int) :
    (inst.setEx key v s).store other = inst.store other := by
  simp [Instance.setEx, Function.update_noteq h]

/-- A value read back from the key just written is the value written. -/
theorem Instance.get_setEx_self_eq {v w : Stored} {s : Int} (h : (inst.setEx key v s).get key = some w) :
    v = w := by
  simp only [Instance.get, Instance.setEx, Function.update_same] at h
  split at h
  · exact Option.some.inj h
  · cases h

/-- A key live after the clock moves on was live before, with the same value. -/
theorem Instance.get_tick {v : Stored} (seconds : Nat) (h : (inst.tick seconds).get key = some v) :
    inst.get key = some v := by
  unfold Instance.get at h ⊢
  cases he : inst.store key with
  | none => simp only [Instance.tick, he, reduceCtorEq] at h
  | some e =>
    simp only [Instance.tick, he] at h ⊢
    split at h
    · rw [if_pos (by omega)]
      exact h
    · cases h

end Frame

section TryEval

variable {inst : Instance} {key : String} {n : Int} {script : Script}

theorem Instance.tryEval_of_neg (hn : n < 0) : inst.tryEval key n script = (false, inst) :=
  if_pos hn

theorem Instance.tryEval_of_down (hup : inst.up = false) : inst.tryEval key n script = (false, inst) := by
  simp [Instance.tryEval, Instance.Eval, hup]

/-- A request the wrapper sends to a reachable shard is the script's reply and write. -/
theorem Instance.tryEval_of_ok (hn : 0 ≤ n) (hup : inst.up = true) {reply : Int} {v : Stored}
    {seconds : Int} (h : script (inst.get key) = .ok (reply, v, seconds)) :
    inst.tryEval key n script = (reply == 1, inst.setEx key v seconds) := by
  simp [Instance.tryEval, Instance.Eval, hup, h, Int.not_lt.2 hn]

theorem Instance.tryEval_of_error (hup : inst.up = true) {e : String}
    (h : script (inst.get key) = .error e) : inst.tryEval key n script = (false, inst) := by
  unfold Instance.tryEval
  split
  · rfl
  · simp [Instance.Eval, hup, h]

/-- A script that raises on the key's live value leaves the call refused and the instance as
    it was, whatever the request and whether or not the instance is reachable. -/
theorem Instance.tryEval_of_script_error {e : String} (h : script (inst.get key) = .error e) :
    inst.tryEval key n script = (false, inst) := by
  by_cases hn : n < 0
  · exact Instance.tryEval_of_neg hn
  cases hup : inst.up
  · exact Instance.tryEval_of_down hup
  · exact Instance.tryEval_of_error hup h

/-- The wrapper leaves the instance as it was, or has the script write its key with what the
    script returns on the key's live value. -/
theorem Instance.tryEval_cases :
    (inst.tryEval key n script).2 = inst ∨
      ∃ reply v seconds, script (inst.get key) = .ok (reply, v, seconds) ∧
        (inst.tryEval key n script).2 = inst.setEx key v seconds := by
  by_cases hn : n < 0
  · exact .inl (by rw [Instance.tryEval_of_neg hn])
  cases hup : inst.up
  · exact .inl (by rw [Instance.tryEval_of_down hup])
  cases hs : script (inst.get key) with
  | error e => exact .inl (by rw [Instance.tryEval_of_error hup hs])
  | ok r => exact .inr ⟨r.1, r.2.1, r.2.2, rfl, by rw [Instance.tryEval_of_ok (Int.not_lt.1 hn) hup hs]⟩

end TryEval

/-- Two instances that look the same from `key`: the same reachability, clock and entry at
    `key`. -/
def Instance.SameAt (key : String) (a b : Instance) : Prop :=
  a.up = b.up ∧ a.clock = b.clock ∧ a.store key = b.store key

section SameAt

variable {key other : String} {a b c : Instance}

theorem Instance.SameAt.refl (a : Instance) : a.SameAt key a := ⟨rfl, rfl, rfl⟩

theorem Instance.SameAt.trans (hab : a.SameAt key b) (hbc : b.SameAt key c) : a.SameAt key c :=
  ⟨hab.1.trans hbc.1, hab.2.1.trans hbc.2.1, hab.2.2.trans hbc.2.2⟩

theorem Instance.SameAt.symm (h : a.SameAt key b) : b.SameAt key a :=
  ⟨h.1.symm, h.2.1.symm, h.2.2.symm⟩

theorem Instance.SameAt.get_eq (h : a.SameAt key b) : a.get key = b.get key := by
  simp only [Instance.get, h.2.1, h.2.2]

theorem Instance.SameAt.Get_eq (h : a.SameAt key b) : a.Get key = b.Get key := by
  simp only [Instance.Get, h.1, h.get_eq]

theorem Instance.SameAt.tick (h : a.SameAt key b) (seconds : Nat) :
    (a.tick seconds).SameAt key (b.tick seconds) :=
  ⟨h.1, by simp only [Instance.tick, h.2.1], h.2.2⟩

/-- A write to one key is not seen from another. -/
theorem Instance.setEx_sameAt_of_ne (h : other ≠ key) (v : Stored) (seconds : Int) :
    (a.setEx key v seconds).SameAt other a :=
  ⟨rfl, rfl, Instance.setEx_store_of_ne h v seconds⟩

/-- The wrapper's call on one key is not seen from another. -/
theorem Instance.tryEval_sameAt_of_ne {n : Int} {script : Script} (h : other ≠ key) :
    (a.tryEval key n script).2.SameAt other a := by
  rcases @Instance.tryEval_cases a key n script with
    heq | ⟨-, v, seconds, -, heq⟩
  · rw [heq]; exact Instance.SameAt.refl a
  · rw [heq]; exact Instance.setEx_sameAt_of_ne h v seconds

/-- From instances that look the same from its key, the wrapper's call replies the same and
    leaves them looking the same from that key. -/
theorem Instance.tryEval_sameAt {n : Int} {script : Script} (h : a.SameAt key b) :
    (a.tryEval key n script).1 = (b.tryEval key n script).1 ∧
      (a.tryEval key n script).2.SameAt key (b.tryEval key n script).2 := by
  by_cases hn : n < 0
  · rw [Instance.tryEval_of_neg hn, Instance.tryEval_of_neg hn]; exact ⟨rfl, h⟩
  cases hu : b.up
  · rw [Instance.tryEval_of_down hu, Instance.tryEval_of_down (h.1.trans hu)]
    exact ⟨rfl, h⟩
  · cases hs : script (b.get key) with
    | error e =>
      rw [Instance.tryEval_of_error hu hs,
        Instance.tryEval_of_error (h.1.trans hu) (h.get_eq ▸ hs)]
      exact ⟨rfl, h⟩
    | ok r =>
      rw [Instance.tryEval_of_ok (Int.not_lt.1 hn) hu hs,
        Instance.tryEval_of_ok (Int.not_lt.1 hn) (h.1.trans hu) (h.get_eq ▸ hs)]
      exact ⟨rfl, h.1, h.2.1, by simp [Instance.setEx, h.2.1]⟩

end SameAt

end rate_limiter.redis
