import Plank.Audio.HalClients

/-!
# The running count counts the running clients

An entry is marked in the call that changes the count, and a client has one entry at most, so the
count is the number of marked entries whenever no start is under way. A start from zero stores the
clock before it counts up, so a clock that is loaded while a client runs is that of one start.
-/

namespace Plank.Audio

namespace HalDriver

variable {History : Type} {kind : HalKind History} {ticks : HalTicks}

/-- How many clients are marked running. -/
def marked (driver : HalDriver History) : Nat := driver.clients.countP fun slot => slot.running

/-- The identities of the clients in the table. -/
def identities (driver : HalDriver History) : List UInt32 :=
  (driver.clients.filter fun slot => slot.used).map fun slot => slot.id

/-- The clock as the last start stored it, or as it was initialized. -/
def started (driver : HalDriver History) : UInt64 × UInt64 :=
  driver.starts.getLast?.getD driver.first

/-- What the table and the clock obey. -/
structure ClientsLaw (kind : HalKind History) (ticks : HalTicks) (driver : HalDriver History) :
    Prop where
  /-- Between calls, the running count is the number of clients marked running. -/
  counted : driver.lock = none → driver.running.toNat = driver.marked
  /-- A call changes it by one at most, so it never passes below zero. -/
  steady : driver.lock = none → ∀ call : HalCall,
    driver.running.toNat ≤ (driver.call kind call).2.running.toNat + 1 ∧
      (driver.call kind call).2.running.toNat ≤ driver.running.toNat + 1
  /-- What is marked running is a client. -/
  used : ∀ slot ∈ driver.clients, slot.running = true → slot.used = true
  /-- The identities are unique. -/
  unique : driver.identities.Nodup
  /-- They fit the table. -/
  bounded : driver.identities.length ≤ kind.maxClients
  /-- A call that fails changes nothing. -/
  refused : driver.lock = none → ∀ call : HalCall, (driver.call kind call).1 ≠ .noErr →
    (driver.call kind call).2 = driver
  /-- Between calls, the clock is that of the last rise of the running count from zero to one. -/
  clock : driver.lock = none → (driver.anchor, driver.clockSeed) = driver.started
  /-- Every such rise counts the seed up. -/
  seeds : ∀ index start, driver.starts[index]? = some start →
    start.2 = UInt64.ofNat (index + 2)
  /-- A `timestamp` that a client ran through uses the anchor and the seed of one start. -/
  stamped : ∀ stamp ∈ driver.stamps, stamp.ran = true → (stamp.base, stamp.seed) ∈ driver.starts ∧
    stamp.time = stamp.base + ticks.ofSample stamp.sample

/-! ### The table -/

/-- Two entries are not one client's. -/
def Apart (left right : ClientSlot) : Prop :=
  left.used = true → right.used = true → left.id ≠ right.id

/-- The identities are unique when any two entries are apart. -/
theorem identities_nodup (driver : HalDriver History) :
    driver.identities.Nodup ↔ driver.clients.Pairwise Apart := by
  unfold identities List.Nodup
  rw [List.pairwise_map, List.pairwise_filter]
  rfl

/-- Where the entry of a client is. -/
theorem indexOf_some {driver : HalDriver History} {client : UInt32} {index : Nat}
    (found : driver.indexOf client = some index) :
    ∃ slot, driver.clients[index]? = some slot ∧ slot.used = true ∧ slot.id = client := by
  obtain ⟨inside, owned, -⟩ := List.findIdx?_eq_some_iff_getElem.mp found
  have both := (Bool.and_eq_true _ _).mp owned
  exact ⟨_, List.getElem?_eq_getElem inside, both.1, beq_iff_eq.mp both.2⟩

/-- A client without an entry has none. -/
theorem indexOf_none {driver : HalDriver History} {client : UInt32}
    (missing : driver.indexOf client = none) :
    ∀ slot ∈ driver.clients, slot.used = true → slot.id ≠ client := by
  intro slot member used same
  have unowned := List.findIdx?_eq_none_iff.mp missing slot member
  unfold ownedBy at unowned
  rw [used, same, Bool.true_and, beq_self_eq_true] at unowned
  cases unowned

/-- An entry that is changed in place. -/
theorem pairwise_set {clients : List ClientSlot} (apart : clients.Pairwise Apart) (index : Nat)
    (slot : ClientSlot) (others : ∀ other left, other ≠ index → clients[other]? = some left →
      left.used = true → slot.used = true → left.id ≠ slot.id) :
    (clients.set index slot).Pairwise Apart := by
  rw [List.pairwise_iff_getElem] at apart ⊢
  intro first second first_inside second_inside before
  rw [List.length_set] at first_inside second_inside
  rw [List.getElem_set, List.getElem_set]
  by_cases here : index = first
  · rw [if_pos here, if_neg (by omega)]
    intro used other_used same
    exact others second _ (by omega) (List.getElem?_eq_getElem second_inside) other_used used
      same.symm
  · rw [if_neg here]
    by_cases there : index = second
    · rw [if_pos there]
      intro used other_used
      exact others first _ (fun same => here same.symm) (List.getElem?_eq_getElem first_inside)
        used other_used
    · rw [if_neg there]
      exact apart first second first_inside second_inside before

/-- The number of marked entries after one is changed in place. -/
theorem countP_set {clients : List ClientSlot} {index : Nat} {old : ClientSlot}
    (there : clients[index]? = some old) (slot : ClientSlot) :
    (clients.set index slot).countP (fun slot => slot.running) + old.running.toNat =
      clients.countP (fun slot => slot.running) + slot.running.toNat := by
  obtain ⟨inside, rfl⟩ := List.getElem?_eq_some_iff.mp there
  have positive : clients[index].running = true →
      0 < clients.countP (fun slot => slot.running) := fun marked =>
    List.countP_pos_iff.mpr ⟨_, List.getElem_mem inside, marked⟩
  rw [List.countP_set (h := inside)]
  cases before : clients[index].running with
  | false => cases after : slot.running <;> simp
  | true =>
    have some := positive before
    cases after : slot.running <;> simp <;> omega

/-- The table, and the count of those of it that run. -/
structure Table (kind : HalKind History) (clients : List ClientSlot) (count : Nat) : Prop where
  /-- Its size. -/
  size : clients.length = kind.maxClients
  /-- What is marked running is a client. -/
  used : ∀ slot ∈ clients, slot.running = true → slot.used = true
  /-- No two entries are one client's. -/
  apart : clients.Pairwise Apart
  /-- The count. -/
  counted : count = clients.countP fun slot => slot.running

/-- An entry is changed. -/
theorem Table.set {clients : List ClientSlot} {count : Nat} (table : Table kind clients count)
    {index : Nat} {old : ClientSlot} (there : clients[index]? = some old) {slot : ClientSlot}
    {after : Nat} (sound : slot.running = true → slot.used = true)
    (others : ∀ left ∈ clients, left.used = true → slot.used = true → left.id = slot.id →
      old.used = true ∧ old.id = slot.id)
    (counts : after + old.running.toNat = count + slot.running.toNat) :
    Table kind (clients.set index slot) after := by
  refine ⟨(List.length_set ..).trans table.size, fun entry member marked => ?_, ?_, ?_⟩
  · rcases List.mem_or_eq_of_mem_set member with earlier | rfl
    · exact table.used entry earlier marked
    · exact sound marked
  · refine pairwise_set table.apart index slot fun other left elsewhere found used new same => ?_
    obtain ⟨old_used, old_same⟩ := others left (List.mem_of_getElem? found) used new same
    obtain ⟨inside, rfl⟩ := List.getElem?_eq_some_iff.mp found
    obtain ⟨within, rfl⟩ := List.getElem?_eq_some_iff.mp there
    have apart := List.pairwise_iff_getElem.mp table.apart
    rcases Nat.lt_or_gt_of_ne elsewhere with below | above
    · exact apart other index inside within below used old_used (same.trans old_same.symm)
    · exact apart index other within inside above old_used used (old_same.trans same.symm)
  · have counted := countP_set there slot
    have before := table.counted
    omega

/-- The count fits the table. -/
theorem Table.count_le {clients : List ClientSlot} {count : Nat}
    (table : Table kind clients count) : count ≤ kind.maxClients := by
  rw [table.counted, ← table.size]
  exact List.countP_le_length

/-! ### What every step keeps -/

/-- The clock while a start from zero stores it. -/
def Clock (anchor clockSeed : UInt64) (started : UInt64 × UInt64) : Option StartPlace → Prop
  | none | some .anchor => (anchor, clockSeed) = started
  | some .seed => clockSeed = started.2
  | some .running => clockSeed = started.2 + 1

/-- What every step keeps. -/
structure Kept (kind : HalKind History) (ticks : HalTicks) (driver : HalDriver History) : Prop where
  /-- The table; a start from zero that is under way is marked and not yet counted. -/
  table : Table kind driver.clients (driver.running.toNat + driver.lock.isSome.toNat)
  /-- Only a start from zero holds the lock. -/
  locked : driver.lock ≠ none → driver.running = 0
  /-- Nothing starts without a host. -/
  hosted : driver.host = false → driver.lock = none ∧ driver.starts = []
  /-- A client that runs was started. -/
  running : driver.running ≠ 0 → driver.starts ≠ []
  /-- The clock. -/
  clock : Clock driver.anchor driver.clockSeed driver.started driver.lock
  /-- The seed of the initialization. -/
  first : driver.host = true → driver.first.2 = 1
  /-- The seeds of the starts. -/
  seeds : ∀ index start, driver.starts[index]? = some start → start.2 = UInt64.ofNat (index + 2)
  /-- A `timestamp` that a client ran through so far has loaded the anchor of now. -/
  stampings : ∀ reader stamping, driver.stampings reader = some stamping → stamping.ran = true →
    driver.running ≠ 0 ∧ stamping.base = driver.anchor
  /-- What every `timestamp` returned. -/
  stamps : ∀ stamp ∈ driver.stamps, stamp.ran = true → (stamp.base, stamp.seed) ∈ driver.starts ∧
    stamp.time = stamp.base + ticks.ofSample stamp.sample

variable {driver : HalDriver History}

/-- The seed of the last start. -/
theorem Kept.started_seed (kept : Kept kind ticks driver) (hosted : driver.host = true) :
    driver.started.2 = UInt64.ofNat (driver.starts.length + 1) := by
  unfold started
  rw [List.getLast?_eq_getElem?]
  cases last : driver.starts[driver.starts.length - 1]? with
  | none =>
    have short := List.getElem?_eq_none_iff.mp last
    have empty : driver.starts.length = 0 := by omega
    rw [empty]
    exact kept.first hosted
  | some start =>
    obtain ⟨inside, -⟩ := List.getElem?_eq_some_iff.mp last
    have seed := kept.seeds _ start last
    rw [show driver.starts.length - 1 + 2 = driver.starts.length + 1 by omega] at seed
    exact seed

/-- Where a client runs, no start from zero is under way. -/
theorem Kept.unlocked (kept : Kept kind ticks driver) (runs : driver.running ≠ 0) :
    driver.lock = none := by
  by_contra held
  exact runs (kept.locked held)

/-- Where a client runs, the clock is that of a start. -/
theorem Kept.clock_mem (kept : Kept kind ticks driver) (runs : driver.running ≠ 0) :
    (driver.anchor, driver.clockSeed) ∈ driver.starts := by
  have clock := kept.clock
  rw [kept.unlocked runs] at clock
  show (driver.anchor, driver.clockSeed) ∈ driver.starts
  rw [show (driver.anchor, driver.clockSeed) = driver.started from clock]
  unfold started
  obtain ⟨start, last⟩ := Option.ne_none_iff_exists'.mp
    (mt List.getLast?_eq_none_iff.mp (kept.running runs))
  rw [last]
  exact List.mem_of_getLast? last

/-- A `timestamp` is at most silenced by what the observer notes. -/
theorem observe_stampings {before after : HalDriver History} {reader : Nat} {stamping : Stamping}
    (seen : (observe before after).stampings reader = some stamping) (ran : stamping.ran = true) :
    ∃ earlier, after.stampings reader = some earlier ∧ earlier.ran = true ∧
      stamping.base = earlier.base ∧ after.running ≠ 0 := by
  obtain ⟨earlier, found, rfl⟩ := Option.map_eq_some_iff.mp seen
  have both := (Bool.and_eq_true _ _).mp ran
  exact ⟨earlier, found, both.1, rfl, of_decide_eq_true both.2⟩

/-- Where the running count does not leave zero, the observer notes no rise. -/
theorem observe_starts {before after : HalDriver History}
    (rests : before.running = 0 → after.running = 0) :
    (observe before after).starts = after.starts := by
  refine if_neg fun rises => ?_
  have zero := rests rises.1
  rw [rises.2] at zero
  cases zero

/-- A call changes the table and the count. -/
theorem Kept.change (kept : Kept kind ticks driver) {clients : List ClientSlot} {running : UInt32}
    {history : History} {lock : Option StartPlace}
    (free : driver.lock = none) (table : Table kind clients (running.toNat + lock.isSome.toNat))
    (locks : lock = none ∨ lock = some .anchor ∧ running = 0 ∧ driver.host = true)
    (rests : driver.running = 0 → running = 0) :
    Kept kind ticks (observe driver { driver with
      clients := clients, running := running, history := history, lock := lock }) := by
  have starts := @observe_starts _ driver
    { driver with clients := clients, running := running, history := history, lock := lock } rests
  have clock := kept.clock
  rw [free] at clock
  refine ⟨table, fun held => ?_, fun hostless => ?_, fun runs => ?_, ?_, kept.first, ?_,
    fun reader stamping seen ran => ?_, ?_⟩
  · rcases locks with left | ⟨-, zero, -⟩
    · exact absurd left held
    · exact zero
  · have hosted := kept.hosted hostless
    rw [starts]
    rcases locks with left | ⟨-, -, host⟩
    · exact ⟨left, hosted.2⟩
    · exact absurd (hostless.symm.trans host) nofun
  · rw [starts]
    exact kept.running fun zero => runs (rests zero)
  · unfold started
    rw [starts]
    rcases locks with rfl | ⟨rfl, -, -⟩
    · exact clock
    · exact clock
  · rw [starts]
    exact kept.seeds
  · obtain ⟨earlier, found, before, same, runs⟩ := observe_stampings seen ran
    exact ⟨runs, same.trans (kept.stampings reader earlier found before).2⟩
  · rw [starts]
    exact kept.stamps

/-! ### The calls -/

/-- The count goes down by one. -/
theorem toNat_pred {count : UInt32} (positive : 0 < count.toNat) :
    (count - 1).toNat = count.toNat - 1 := by
  have fits := count.toNat_lt
  rw [UInt32.toNat_sub, show (1 : UInt32).toNat = 1 from rfl]
  omega

/-- The count goes up by one. -/
theorem toNat_succ {count : UInt32} (small : count.toNat + 1 < 0x100000000) :
    (count + 1).toNat = count.toNat + 1 := by
  rw [UInt32.toNat_add, show (1 : UInt32).toNat = 1 from rfl]
  exact Nat.mod_eq_of_lt small

/-- What a call does. -/
inductive Effect (kind : HalKind History) (driver : HalDriver History) :
    HalStatus → HalDriver History → Prop where
  /-- Nothing. -/
  | same (status : HalStatus) : Effect kind driver status driver
  /-- The clock is initialized. -/
  | clocked (hostless : driver.host = false) : Effect kind driver .noErr
      { driver with
        anchor := driver.now, clockSeed := 1, host := true, history := kind.initialHistory
        first := (driver.now, 1) }
  /-- The table and the count change. -/
  | changed (clients : List ClientSlot) (running : UInt32) (history : History)
      (lock : Option StartPlace) (table : Table kind clients (running.toNat + lock.isSome.toNat))
      (locks : lock = none ∨ lock = some .anchor ∧ running = 0 ∧ driver.host = true)
      (rests : driver.running = 0 → running = 0)
      (near : driver.running.toNat ≤ running.toNat + 1 ∧
        running.toNat ≤ driver.running.toNat + 1) :
      Effect kind driver .noErr
        { driver with clients := clients, running := running, history := history, lock := lock }

/-- The table between calls. -/
theorem Kept.counts (kept : Kept kind ticks driver) (free : driver.lock = none) :
    Table kind driver.clients driver.running.toNat := by
  have table := kept.table
  rw [free] at table
  exact table

/-- A client that is marked running is counted. -/
theorem Table.positive {clients : List ClientSlot} {count index : Nat} {slot : ClientSlot}
    (table : Table kind clients count) (there : clients[index]? = some slot)
    (marked : slot.running = true) : 0 < count := by
  rw [table.counted]
  exact List.countP_pos_iff.mpr ⟨slot, List.mem_of_getElem? there, marked⟩

/-- `addClient`. -/
theorem addClient_effect (kept : Kept kind ticks driver) (free : driver.lock = none)
    (reference : Bool) (device : UInt32) (info : Option UInt32) :
    Effect kind driver (driver.addClient kind reference device info).1
      (driver.addClient kind reference device info).2 := by
  unfold addClient
  cases info with
  | none => exact .same _
  | some client =>
    dsimp only
    by_cases refused : (!reference || device != kind.device) = true
    · rw [if_pos refused]
      exact .same _
    rw [if_neg refused]
    cases found : driver.indexOf client with
    | some index => exact .same _
    | none =>
      dsimp only
      cases unused : driver.clients.findIdx? fun slot => !slot.used with
      | none => exact .same _
      | some index =>
        obtain ⟨inside, spare, -⟩ := List.findIdx?_eq_some_iff_getElem.mp unused
        have table := kept.counts free
        have there := List.getElem?_eq_getElem inside
        have idle : driver.clients[index].running = false := by
          by_contra marked
          have used := table.used _ (List.getElem_mem inside) (Bool.eq_true_of_not_eq_false marked)
          rw [used] at spare
          cases spare
        refine .changed _ driver.running driver.history driver.lock ?_ (.inl free) id
          ⟨Nat.le_succ _, Nat.le_succ _⟩
        rw [free]
        refine table.set there nofun (fun left member used _ same => ?_) ?_
        · exact absurd same (indexOf_none found left member used)
        · rw [idle]
          rfl

/-- The entry of a client. -/
theorem getD_slot {clients : List ClientSlot} {index : Nat} {slot : ClientSlot}
    (there : clients[index]? = some slot) : clients.getD index {} = slot := by
  rw [List.getD_eq_getElem?_getD, there]
  rfl

/-- `removeClient`. -/
theorem removeClient_effect (kept : Kept kind ticks driver) (free : driver.lock = none)
    (reference : Bool) (device : UInt32) (info : Option UInt32) :
    Effect kind driver (driver.removeClient kind reference device info).1
      (driver.removeClient kind reference device info).2 := by
  unfold removeClient
  cases info with
  | none => exact .same _
  | some client =>
    dsimp only
    by_cases refused : (!reference || device != kind.device) = true
    · rw [if_pos refused]
      exact .same _
    rw [if_neg refused]
    cases found : driver.indexOf client with
    | none => exact .same _
    | some index =>
      dsimp only
      obtain ⟨slot, there, -, -⟩ := indexOf_some found
      have table := kept.counts free
      rw [getD_slot there]
      by_cases marked : slot.running = true
      · have positive := table.positive there marked
        have counted := toNat_pred positive
        rw [if_pos marked]
        refine .changed _ (driver.running - 1) driver.history driver.lock ?_ (.inl free)
          (fun zero => ?_) (by omega)
        · rw [free]
          refine table.set there nofun (fun _ _ _ used => absurd used nofun) ?_
          rw [marked, counted]
          show driver.running.toNat - 1 + 0 + 1 = driver.running.toNat + 0
          omega
        · rw [zero] at positive
          exact absurd positive (by decide)
      · rw [if_neg marked]
        refine .changed _ driver.running driver.history driver.lock ?_ (.inl free) id
          ⟨Nat.le_succ _, Nat.le_succ _⟩
        rw [free]
        refine table.set there nofun (fun _ _ _ used => absurd used nofun) ?_
        rw [Bool.eq_false_of_not_eq_true marked]
        rfl

/-- `changeIO`. -/
theorem changeIO_effect (small : kind.maxClients < 0xffffffff) (kept : Kept kind ticks driver)
    (free : driver.lock = none) (reference : Bool) (device client : UInt32) (start : Bool) :
    Effect kind driver (driver.changeIO kind reference device client start).1
      (driver.changeIO kind reference device client start).2 := by
  unfold changeIO
  by_cases refused : (!reference || device != kind.device || !driver.host) = true
  · rw [if_pos refused]
    exact .same _
  rw [if_neg refused]
  have host : driver.host = true := by
    simp only [Bool.or_eq_true, Bool.not_eq_true', not_or] at refused
    exact Bool.eq_true_of_not_eq_false refused.2
  cases found : driver.indexOf client with
  | none => exact .same _
  | some index =>
    dsimp only
    obtain ⟨slot, there, used, -⟩ := indexOf_some found
    have table := kept.counts free
    have most := table.count_le
    rw [getD_slot there]
    by_cases differs : (slot.running != start) = true
    swap
    · rw [if_neg differs]
      exact .same _
    rw [if_pos differs]
    have opposite : slot.running = !start := by
      revert differs
      cases slot.running <;> cases start <;> decide
    have others (left : ClientSlot) (_ : left ∈ driver.clients) (_ : left.used = true)
        (_ : ({ slot with running := start } : ClientSlot).used = true)
        (same : left.id = ({ slot with running := start } : ClientSlot).id) :
        slot.used = true ∧ slot.id = ({ slot with running := start } : ClientSlot).id :=
      ⟨used, rfl⟩
    cases start with
    | true =>
      by_cases zero : driver.running = 0
      · rw [if_pos rfl, if_pos zero]
        refine .changed _ driver.running _ (some .anchor) ?_ (.inr ⟨rfl, zero, host⟩) id
          ⟨Nat.le_succ _, Nat.le_succ _⟩
        refine table.set there (fun _ => used) others ?_
        rw [opposite]
        rfl
      · have counted := @toNat_succ driver.running (by omega)
        rw [if_pos rfl, if_neg zero]
        refine .changed _ (driver.running + 1) driver.history driver.lock ?_ (.inl free)
          (fun rests => absurd rests zero) (by omega)
        rw [free]
        refine table.set there (fun _ => used) others ?_
        rw [opposite, counted]
        rfl
    | false =>
      have positive := table.positive there opposite
      have counted := toNat_pred positive
      rw [if_neg Bool.false_ne_true]
      refine .changed _ (driver.running - 1) driver.history driver.lock ?_ (.inl free)
        (fun zero => ?_) (by omega)
      · rw [free]
        refine table.set there nofun others ?_
        rw [opposite, counted]
        show driver.running.toNat - 1 + 0 + 1 = driver.running.toNat + 0
        omega
      · rw [zero] at positive
        exact absurd positive (by decide)

/-- A call that takes the lock. -/
theorem call_effect (small : kind.maxClients < 0xffffffff) (kept : Kept kind ticks driver)
    (free : driver.lock = none) (call : HalCall) :
    Effect kind driver (driver.call kind call).1 (driver.call kind call).2 := by
  cases call with
  | initializeDriver reference owner =>
    show Effect kind driver (driver.initializeDriver kind reference owner).1
      (driver.initializeDriver kind reference owner).2
    unfold initializeDriver
    by_cases refused : (!reference || !owner) = true
    · rw [if_pos refused]
      exact .same _
    rw [if_neg refused]
    by_cases hostless : (!driver.host) = true
    · rw [if_pos hostless]
      exact .clocked ((Bool.not_eq_true' _).mp hostless)
    · rw [if_neg hostless]
      exact .same _
  | addClient reference device info => exact addClient_effect kept free reference device info
  | removeClient reference device info =>
    exact removeClient_effect kept free reference device info
  | startIO reference device client =>
    exact changeIO_effect small kept free reference device client true
  | stopIO reference device client =>
    exact changeIO_effect small kept free reference device client false

/-! ### Runs -/

/-- The first initialization. -/
theorem Kept.clocked (kept : Kept kind ticks driver) (hostless : driver.host = false) :
    Kept kind ticks (observe driver { driver with
      anchor := driver.now, clockSeed := 1, host := true, history := kind.initialHistory
      first := (driver.now, 1) }) := by
  obtain ⟨free, unstarted⟩ := kept.hosted hostless
  have zero : driver.running = 0 := by
    by_contra runs
    exact kept.running runs unstarted
  have starts := @observe_starts _ driver { driver with
    anchor := driver.now, clockSeed := 1, host := true, history := kind.initialHistory
    first := (driver.now, 1) } id
  refine ⟨kept.table, kept.locked, nofun, fun runs => absurd zero runs, ?_, fun _ => rfl, ?_,
    fun reader stamping seen ran => ?_, fun stamp member ran => ?_⟩
  · show Clock driver.now 1 _ driver.lock
    unfold started
    rw [starts, free]
    show Clock driver.now 1 (driver.starts.getLast?.getD (driver.now, 1)) none
    rw [unstarted]
    rfl
  · rw [starts]
    show ∀ index start, driver.starts[index]? = some start → _
    rw [unstarted]
    exact nofun
  · obtain ⟨-, -, -, -, runs⟩ := observe_stampings seen ran
    exact absurd zero runs
  · have earlier := (kept.stamps stamp member ran).1
    rw [unstarted] at earlier
    cases earlier

/-- A call that takes the lock. -/
theorem Kept.call (small : kind.maxClients < 0xffffffff) (kept : Kept kind ticks driver)
    (free : driver.lock = none) (call : HalCall) :
    Kept kind ticks (observe driver (driver.call kind call).2) := by
  have effect := call_effect small kept free call
  generalize driver.call kind call = outcome at effect
  obtain ⟨status, after⟩ := outcome
  cases effect with
  | same => exact kept.change free kept.table (.inl free) id
  | clocked hostless => exact kept.clocked hostless
  | changed clients running history lock table locks rests near =>
    exact kept.change free table locks rests

/-- A store of a start from zero. -/
theorem Kept.store (kept : Kept kind ticks driver) {place : StartPlace}
    (held : driver.lock = some place) :
    Kept kind ticks (observe driver (driver.storing place)) := by
  have zero := kept.locked (by rw [held]; nofun)
  have host : driver.host = true := by
    by_contra hostless
    have free := (kept.hosted (Bool.eq_false_of_not_eq_true hostless)).1
    rw [held] at free
    cases free
  have clock := kept.clock
  have table := kept.table
  rw [held] at clock table
  cases place with
  | anchor =>
    have starts := @observe_starts _ driver (driver.storing .anchor) id
    refine ⟨table, fun _ => zero, fun hostless => absurd (host.symm.trans hostless) nofun,
      fun runs => absurd zero runs, ?_, kept.first, ?_, fun reader stamping seen ran => ?_, ?_⟩
    · show driver.clockSeed = (started _).2
      unfold started
      rw [starts]
      exact congrArg Prod.snd clock
    · rw [starts]
      exact kept.seeds
    · obtain ⟨-, -, -, -, runs⟩ := observe_stampings seen ran
      exact absurd zero runs
    · rw [starts]
      exact kept.stamps
  | seed =>
    have starts := @observe_starts _ driver (driver.storing .seed) id
    refine ⟨table, fun _ => zero, fun hostless => absurd (host.symm.trans hostless) nofun,
      fun runs => absurd zero runs, ?_, kept.first, ?_, fun reader stamping seen ran => ?_, ?_⟩
    · show driver.clockSeed + 1 = (started _).2 + 1
      unfold started
      rw [starts]
      exact congrArg (· + 1) clock
    · rw [starts]
      exact kept.seeds
    · obtain ⟨-, -, -, -, runs⟩ := observe_stampings seen ran
      exact absurd zero runs
    · rw [starts]
      exact kept.stamps
  | running =>
    have one : driver.running + 1 = 1 := by rw [zero]; rfl
    have starts : (observe driver (driver.storing .running)).starts =
        driver.starts ++ [(driver.anchor, driver.clockSeed)] := if_pos ⟨zero, one⟩
    have seed : driver.clockSeed = UInt64.ofNat (driver.starts.length + 2) := by
      rw [show driver.clockSeed = driver.started.2 + 1 from clock, kept.started_seed host]
      apply UInt64.toNat_inj.mp
      rw [UInt64.toNat_add, UInt64.toNat_ofNat', UInt64.toNat_ofNat',
        show (1 : UInt64).toNat = 1 from rfl]
      omega
    refine ⟨?_, fun busy => absurd rfl busy,
      fun hostless => absurd (host.symm.trans hostless) nofun, fun _ => ?_, ?_, kept.first, ?_,
      fun reader stamping seen ran => ?_, ?_⟩
    · show Table kind driver.clients ((driver.running + 1).toNat + 0)
      rw [one]
      rw [zero] at table
      exact table
    · rw [starts]
      exact List.append_ne_nil_of_right_ne_nil _ nofun
    · show (driver.anchor, driver.clockSeed) = started _
      unfold started
      rw [starts, List.getLast?_append]
      rfl
    · rw [starts]
      intro index start there
      by_cases earlier : index < driver.starts.length
      · rw [List.getElem?_append_left earlier] at there
        exact kept.seeds index start there
      · rw [List.getElem?_append_right (Nat.le_of_not_lt earlier)] at there
        obtain ⟨inside, same⟩ := List.getElem?_eq_some_iff.mp there
        rw [List.length_singleton] at inside
        have last : index = driver.starts.length := by omega
        rw [List.getElem_singleton] at same
        rw [← same, last]
        exact seed
    · obtain ⟨earlier, found, before, -, -⟩ := observe_stampings seen ran
      exact absurd zero (kept.stampings reader earlier found before).1
    · rw [starts]
      intro stamp member ran
      obtain ⟨start, time⟩ := kept.stamps stamp member ran
      exact ⟨List.mem_append_left _ start, time⟩

/-- A step that leaves the table, the count and the clock alone. -/
theorem Kept.aside (kept : Kept kind ticks driver) {now : UInt64}
    {stampings : Nat → Option Stamping} {stamps : List Stamp}
    (loads : ∀ reader stamping, stampings reader = some stamping → stamping.ran = true →
      driver.running ≠ 0 ∧ stamping.base = driver.anchor)
    (returns : ∀ stamp ∈ stamps, stamp.ran = true → (stamp.base, stamp.seed) ∈ driver.starts ∧
      stamp.time = stamp.base + ticks.ofSample stamp.sample) :
    Kept kind ticks (observe driver
      { driver with now := now, stampings := stampings, stamps := stamps }) := by
  have starts := @observe_starts _ driver
    { driver with now := now, stampings := stampings, stamps := stamps } id
  refine ⟨kept.table, kept.locked, ?_, ?_, ?_, kept.first, ?_,
    fun reader stamping seen ran => ?_, ?_⟩
  · rw [starts]
    exact kept.hosted
  · rw [starts]
    exact kept.running
  · unfold started
    rw [starts]
    exact kept.clock
  · rw [starts]
    exact kept.seeds
  · obtain ⟨earlier, found, before, same, runs⟩ := observe_stampings seen ran
    exact ⟨runs, same.trans (loads reader earlier found before).2⟩
  · rw [starts]
    exact returns

/-- Every step keeps the invariant. -/
theorem kept_step (small : kind.maxClients < 0xffffffff) :
    (system kind ticks).Preserves (Kept kind ticks) := by
  intro before label after kept stepped
  obtain ⟨acted, happened, rfl⟩ := Option.map_eq_some_iff.mp stepped
  cases label with
  | pass later =>
    obtain ⟨-, happened⟩ := Option.ite_none_right_eq_some.mp happened
    obtain rfl := Option.some.inj happened
    exact kept.aside kept.stampings kept.stamps
  | call call =>
    obtain ⟨free, happened⟩ := Option.ite_none_left_eq_some.mp happened
    obtain rfl := Option.some.inj happened
    exact kept.call small (Option.not_isSome_iff_eq_none.mp free) call
  | store =>
    obtain ⟨place, held, rfl⟩ := Option.map_eq_some_iff.mp happened
    exact kept.store held
  | timestamp reader given =>
    have waits : before.stampings reader = none := by
      cases busy : before.stampings reader with
      | none => rfl
      | some stamping => simp only [act, busy, reduceCtorEq] at happened
    simp only [act, waits, Option.some.injEq] at happened
    subst happened
    unfold timestamp
    by_cases refused : (!given || !before.host) = true
    · rw [if_pos refused]
      exact kept.aside kept.stampings kept.stamps
    · rw [if_neg refused]
      refine kept.aside (fun other stamping there ran => ?_) kept.stamps
      by_cases same : other = reader
      · rw [if_pos same] at there
        obtain rfl := Option.some.inj there
        exact ⟨of_decide_eq_true ran, rfl⟩
      · rw [if_neg same] at there
        exact kept.stampings other stamping there ran
  | stamp reader =>
    obtain ⟨reading, busy, rfl⟩ := Option.map_eq_some_iff.mp happened
    unfold stamping
    cases read : reading.now with
    | none =>
      refine kept.aside (fun other stamping there ran => ?_) kept.stamps
      by_cases same : other = reader
      · rw [if_pos same] at there
        obtain rfl := Option.some.inj there
        exact kept.stampings reader reading busy ran
      · rw [if_neg same] at there
        exact kept.stampings other stamping there ran
    | some now =>
      refine kept.aside (fun other stamping there ran => ?_) fun stamp member ran => ?_
      · change (if other = reader then none else before.stampings other) = some stamping at there
        by_cases same : other = reader
        · rw [if_pos same] at there
          cases there
        · rw [if_neg same] at there
          exact kept.stampings other stamping there ran
      · rcases List.mem_append.mp member with earlier | latest
        · exact kept.stamps stamp earlier ran
        · obtain rfl := List.mem_singleton.mp latest
          obtain ⟨runs, base⟩ := kept.stampings reader reading busy ran
          refine ⟨?_, rfl⟩
          show (reading.base, before.clockSeed) ∈ before.starts
          rw [base]
          exact kept.clock_mem runs

/-- In every state that is reached, the invariant holds. -/
theorem reachable_kept (small : kind.maxClients < 0xffffffff)
    (reachable : (system kind ticks).Reachable driver) : Kept kind ticks driver := by
  refine (kept_step small).reachable ?_ reachable
  rintro _ ⟨now, rfl⟩
  refine ⟨⟨List.length_replicate, fun slot member marked => ?_, ?_, ?_⟩, nofun,
    fun _ => ⟨rfl, rfl⟩, fun runs => absurd rfl runs, rfl, nofun, nofun, nofun, nofun⟩
  · rw [List.eq_of_mem_replicate member] at marked
    cases marked
  · exact List.pairwise_replicate.mpr (.inr nofun)
  · exact (List.countP_eq_zero.mpr fun slot member => by
      rw [List.eq_of_mem_replicate member]
      exact Bool.false_ne_true).symm

/-- In every state that is reached, the table and the clock obey the law. -/
theorem Kept.law (small : kind.maxClients < 0xffffffff) (kept : Kept kind ticks driver) :
    ClientsLaw kind ticks driver := by
  refine ⟨fun free => (kept.counts free).counted, fun free call => ?_, kept.table.used,
    (identities_nodup driver).mpr kept.table.apart, ?_, fun free call fails => ?_, fun free => ?_,
    kept.seeds, kept.stamps⟩
  · have effect := call_effect small kept free call
    generalize driver.call kind call = outcome at effect
    obtain ⟨status, after⟩ := outcome
    cases effect with
    | same => exact ⟨Nat.le_succ _, Nat.le_succ _⟩
    | clocked => exact ⟨Nat.le_succ _, Nat.le_succ _⟩
    | changed clients running history lock table locks rests near => exact near
  · rw [← kept.table.size]
    exact (List.length_map ..).trans_le (List.length_filter_le _ _)
  · have effect := call_effect small kept free call
    generalize driver.call kind call = outcome at effect fails
    obtain ⟨status, after⟩ := outcome
    cases effect with
    | same => rfl
    | clocked => exact absurd rfl fails
    | changed => exact absurd rfl fails
  · have clock := kept.clock
    rw [free] at clock
    exact clock

end HalDriver

/-- Two clients come, one starts and asks for the time, and is taken away while it runs. -/
def sampleCalls : List HalDriver.Label :=
  [.call (.initializeDriver true true), .call (.addClient true 2 (some 7)),
    .call (.addClient true 2 (some 9)), .pass 20000, .call (HalCall.startIO true 2 7),
    .store, .store, .store, .pass 40000, .timestamp 0 true, .stamp 0, .stamp 0,
    .call (.removeClient true 2 (some 7))]

end Plank.Audio
