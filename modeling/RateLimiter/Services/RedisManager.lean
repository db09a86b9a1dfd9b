import RateLimiter.Redis.Instance

open rate_limiter.redis

namespace rate_limiter.services

/-- One bit of the reflected CRC-32 with the IEEE polynomial `0xEDB88320`. -/
def crc32.bitStep (crc : UInt32) : UInt32 :=
  if crc &&& 1 = 1 then (crc >>> 1) ^^^ 0xEDB88320 else crc >>> 1

/-- `n` bits of the running CRC-32. -/
def crc32.bits : Nat → UInt32 → UInt32
  | 0, crc => crc
  | n + 1, crc => crc32.bits n (crc32.bitStep crc)

/-- One byte into the running CRC-32, a bit at a time. -/
def crc32.update (crc : UInt32) (b : UInt8) : UInt32 :=
  crc32.bits 8 (crc ^^^ b.toUInt32)

/-- `crc32.ChecksumIEEE`: the IEEE CRC-32 of a byte string, register preset to all ones and
    the result inverted. -/
def crc32.ChecksumIEEE (data : List UInt8) : UInt32 :=
  data.foldl crc32.update 0xFFFFFFFF ^^^ 0xFFFFFFFF

set_option maxRecDepth 20000 in
example : crc32.ChecksumIEEE "123456789".toUTF8.data.toList = 0xCBF43926 := by decide

/-- `RedisManager`: the Redis instances its clients reach, one per configured address.
    `strings.Split` of the `REDIS_INSTANCES` setting never yields an empty list, so there is
    always at least one. -/
structure RedisManager where
  clients : List Instance
  clients_ne : clients ≠ []

theorem RedisManager.length_pos (rm : RedisManager) : 0 < rm.clients.length :=
  List.length_pos.2 rm.clients_ne

/-- `GetClientIndex`: the CRC-32 of the key's UTF-8 bytes modulo the number of clients. -/
def RedisManager.GetClientIndex (rm : RedisManager) (userID : String) : Nat :=
  (crc32.ChecksumIEEE userID.toUTF8.data.toList).toNat % rm.clients.length

/-- `GetClient`: the client at the key's index. It returns `&rm.clients[index]`, never `nil`. -/
def RedisManager.GetClient (rm : RedisManager) (userID : String) :
    Option (Fin rm.clients.length) :=
  some ⟨rm.GetClientIndex userID, Nat.mod_lt _ rm.length_pos⟩

/-- The manager after the instance reached by client `i` has moved to `inst`. -/
def RedisManager.setClient (rm : RedisManager) (i : Nat) (inst : Instance) : RedisManager :=
  { clients := rm.clients.set i inst
    clients_ne := by simpa [← List.length_pos] using rm.length_pos }

@[simp] theorem RedisManager.setClient_length (rm : RedisManager) (i : Nat) (inst : Instance) :
    (rm.setClient i inst).clients.length = rm.clients.length := List.length_set _ _ _

/-- The instance the key's client reaches. -/
def RedisManager.clientFor (rm : RedisManager) (userID : String) : Instance :=
  rm.clients.get ⟨rm.GetClientIndex userID, Nat.mod_lt _ rm.length_pos⟩

/-- Every instance's clock moves on by `seconds`. -/
def RedisManager.tick (rm : RedisManager) (seconds : Nat) : RedisManager :=
  { clients := rm.clients.map (·.tick seconds)
    clients_ne := by simpa using rm.clients_ne }

section Clients

variable {rm : RedisManager} {key other : String} {inst : Instance}

@[simp] theorem RedisManager.setClient_clients (i : Nat) :
    (rm.setClient i inst).clients = rm.clients.set i inst := rfl

@[simp] theorem RedisManager.tick_clients (seconds : Nat) :
    (rm.tick seconds).clients = rm.clients.map (·.tick seconds) := rfl

@[simp] theorem RedisManager.setClient_GetClientIndex (i : Nat) :
    (rm.setClient i inst).GetClientIndex key = rm.GetClientIndex key := by
  simp only [RedisManager.GetClientIndex, RedisManager.setClient_length]

@[simp] theorem RedisManager.tick_GetClientIndex (seconds : Nat) :
    (rm.tick seconds).GetClientIndex key = rm.GetClientIndex key := by
  simp only [RedisManager.GetClientIndex, RedisManager.tick_clients, List.length_map]

theorem RedisManager.tick_clientFor (seconds : Nat) :
    (rm.tick seconds).clientFor key = (rm.clientFor key).tick seconds := by
  simp only [RedisManager.clientFor, List.get_eq_getElem, RedisManager.tick_GetClientIndex,
    RedisManager.tick_clients, List.getElem_map]

/-- Writing a key's client gives back what was written, for every key sharing its index, and
    leaves the others' clients alone. -/
theorem RedisManager.setClient_clientFor :
    (rm.setClient (rm.GetClientIndex other) inst).clientFor key =
      if rm.GetClientIndex other = rm.GetClientIndex key then inst else rm.clientFor key := by
  simp only [RedisManager.clientFor, List.get_eq_getElem, RedisManager.setClient_GetClientIndex,
    RedisManager.setClient_clients, List.getElem_set]

theorem RedisManager.clientFor_eq_of_index (h : rm.GetClientIndex other = rm.GetClientIndex key) :
    rm.clientFor other = rm.clientFor key := by
  simp only [RedisManager.clientFor, List.get_eq_getElem, h]

/-- Writing back a key's own client changes nothing. -/
theorem RedisManager.setClient_self (rm : RedisManager) (key : String) :
    rm.setClient (rm.GetClientIndex key) (rm.clientFor key) = rm := by
  obtain ⟨clients, hne⟩ := rm
  simp only [RedisManager.setClient, RedisManager.mk.injEq]
  refine List.ext_getElem (List.length_set ..) fun n _ _ => ?_
  rw [List.getElem_set]
  split
  · subst n; rfl
  · rfl

end Clients

end rate_limiter.services
