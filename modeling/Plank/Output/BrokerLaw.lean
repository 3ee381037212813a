import Plank.Output.Broker
import Plank.Output.Recovery

/-!
# Every run of the output broker

The blocks of the serial queue alternate: between the selection for an owner and the restoration
behind it no other block touches the outputs. In every state that is reached, through any crashes
and any changes by others, the journal names what the program has switched, and can complete its
restoration.
-/

namespace Plank.Output

open Wire (XpcFields)
open Dialogue (Obeys)

/-! ### The serial queue -/

/-- The blocks of the serial queue, with the owner that they leave. -/
inductive Routed : List Job → Option Nat → Prop where
  /-- There is none. -/
  | start : Routed [] none
  /-- A recovery, while there is no owner. -/
  | recover {jobs : List Job} (routed : Routed jobs none) : Routed (jobs ++ [.recover]) none
  /-- The one of a stop. -/
  | stop {jobs : List Job} (routed : Routed jobs none) : Routed (jobs ++ [.stop]) none
  /-- A selection for an owner, while there was none. -/
  | select {jobs : List Job} (routed : Routed jobs none) (peer : Nat) :
    Routed (jobs ++ [.select peer]) (some peer)
  /-- The restoration behind an owner. -/
  | restore {jobs : List Job} {peer : Nat} (routed : Routed jobs (some peer)) (answered : Bool) :
    Routed (jobs ++ [.close peer true answered]) none
  /-- What follows another peer. -/
  | pass {jobs : List Job} {owner : Option Nat} (routed : Routed jobs owner) {peer : Nat}
    (other : owner ≠ some peer) (answered : Bool) :
    Routed (jobs ++ [.close peer false answered]) owner

/-- A list with one more element at its end is split at it, or before it. -/
theorem append_singleton_split {α : Type} {jobs before after : List α} {last job : α}
    (split : jobs ++ [last] = before ++ job :: after) :
    (after = [] ∧ last = job ∧ jobs = before) ∨
      ∃ rest, after = rest ++ [last] ∧ jobs = before ++ job :: rest := by
  obtain rfl | ⟨rest, final, rfl⟩ := List.eq_nil_or_concat' after
  · obtain ⟨same, ends⟩ := List.append_singleton_inj.mp split
    exact .inl ⟨rfl, ends, same⟩
  · rw [← List.cons_append, ← List.append_assoc] at split
    obtain ⟨same, rfl⟩ := List.append_singleton_inj.mp split
    exact .inr ⟨rest, rfl, same⟩

/-- A job follows a selection. -/
theorem exists_mem_append {after : List Job} {peer : Nat} {last : Job}
    (restored : ∃ answered, .close peer true answered ∈ after) :
    ∃ answered, .close peer true answered ∈ after ++ [last] :=
  restored.imp fun _ => List.mem_append_left _

/-- A selection is followed by its restoration, or its peer is the owner and only other peers that
are closed follow. -/
theorem Routed.followed {jobs : List Job} {owner : Option Nat} (routed : Routed jobs owner)
    {before after : List Job} {peer : Nat} (split : jobs = before ++ .select peer :: after) :
    (∃ answered, .close peer true answered ∈ after) ∨
      (owner = some peer ∧ ∀ job ∈ after, ∃ other answered, job = .close other false answered ∧
        other ≠ peer) := by
  induction routed generalizing before after with
  | start =>
    exact (List.append_ne_nil_of_right_ne_nil before (List.cons_ne_nil _ _) split.symm).elim
  | recover routed ih | stop routed ih =>
    obtain ⟨-, none, -⟩ | ⟨rest, rfl, earlier⟩ := append_singleton_split split
    · exact nomatch none
    · obtain restored | ⟨owned, -⟩ := ih earlier
      · exact .inl (exists_mem_append restored)
      · exact nomatch owned
  | select routed selected ih =>
    obtain ⟨rfl, same, -⟩ | ⟨rest, rfl, earlier⟩ := append_singleton_split split
    · obtain rfl := Job.select.inj same
      exact .inr ⟨rfl, List.forall_mem_nil _⟩
    · obtain restored | ⟨owned, -⟩ := ih earlier
      · exact .inl (exists_mem_append restored)
      · exact nomatch owned
  | restore routed answered ih =>
    obtain ⟨-, none, -⟩ | ⟨rest, rfl, earlier⟩ := append_singleton_split split
    · exact nomatch none
    · obtain restored | ⟨owned, -⟩ := ih earlier
      · exact .inl (exists_mem_append restored)
      · obtain rfl := Option.some.inj owned
        exact .inl ⟨answered, List.mem_append_right _ List.mem_cons_self⟩
  | pass routed other answered ih =>
    obtain ⟨-, none, -⟩ | ⟨rest, rfl, earlier⟩ := append_singleton_split split
    · exact nomatch none
    · obtain restored | ⟨owned, passes⟩ := ih earlier
      · exact .inl (exists_mem_append restored)
      · refine .inr ⟨owned, fun job member => ?_⟩
        obtain inside | last := List.mem_append.mp member
        · exact passes job inside
        · refine ⟨_, answered, List.mem_singleton.mp last, ?_⟩
          rintro rfl
          exact other owned

/-- The blocks up to any of them are routed. -/
theorem Routed.before {jobs : List Job} {owner : Option Nat} (routed : Routed jobs owner)
    {before after : List Job} (split : jobs = before ++ after) :
    ∃ holder, Routed before holder := by
  induction routed generalizing after with
  | start =>
    obtain ⟨rfl, -⟩ := List.append_eq_nil_iff.mp split.symm
    exact ⟨none, .start⟩
  | recover routed ih | stop routed ih | select routed _ ih | restore routed _ ih
  | pass routed _ _ ih =>
    obtain rfl | ⟨rest, last, rfl⟩ := List.eq_nil_or_concat' after
    · rw [List.append_nil] at split
      subst split
      exact ⟨_, by constructor <;> assumption⟩
    · rw [← List.append_assoc] at split
      exact ih (List.append_singleton_inj.mp split).1

/-- Between the selections for two owners is the restoration behind the first. -/
theorem Routed.alone {jobs : List Job} {owner : Option Nat} (routed : Routed jobs owner)
    {before between after : List Job} {first second : Nat}
    (split : jobs = before ++ .select first :: (between ++ .select second :: after)) :
    ∃ answered, .close first true answered ∈ between := by
  have part : jobs = (before ++ .select first :: (between ++ [.select second])) ++ after := by
    rw [split]
    simp
  obtain ⟨holder, earlier⟩ := routed.before part
  obtain ⟨answered, member⟩ | ⟨-, passes⟩ := earlier.followed rfl
  · obtain inside | last := List.mem_append.mp member
    · exact ⟨answered, inside⟩
    · exact nomatch List.mem_singleton.mp last
  · obtain ⟨other, answered, same, -⟩ :=
      passes (.select second) (List.mem_append_right _ List.mem_cons_self)
    exact nomatch same

/-! ### The broker -/

/-- The owner is the one of the serial queue, and not closed. -/
structure Lent (broker : Broker) : Prop where
  /-- The serial queue leaves the owner with the route. -/
  routed : Routed broker.submitted broker.owner
  /-- The owner is not closed. -/
  owner : ∀ peer, broker.owner = some peer →
    (broker.peer peer).closed = false ∧ peer < broker.count
  /-- Every peer that is not closed is among the peers. -/
  listed : ∀ peer < broker.count, (broker.peer peer).closed = false → peer ∈ broker.peers

/-- A peer that changes stays as open as it is. -/
theorem closed_setPeer (broker : Broker) (index peer : Nat) {change : Peer → Peer}
    (same : (change (broker.peer index)).closed = (broker.peer index).closed) :
    ((broker.setPeer index change).peer peer).closed = (broker.peer peer).closed := by
  unfold Broker.setPeer
  by_cases here : peer = index
  · subst here
    exact (congrArg Peer.closed (Function.update_self peer _ broker.peer)).trans same
  · exact congrArg Peer.closed (Function.update_of_ne here _ broker.peer)

/-- The peers of a broker that differ in nothing but what is known of them. -/
theorem Lent.setPeer {broker : Broker} (lent : Lent broker) (index : Nat) {change : Peer → Peer}
    (same : (change (broker.peer index)).closed = (broker.peer index).closed) :
    Lent (broker.setPeer index change) where
  routed := lent.routed
  owner peer owned := by
    rw [closed_setPeer broker index peer same]
    exact lent.owner peer owned
  listed peer known still := by
    rw [closed_setPeer broker index peer same] at still
    exact lent.listed peer known still

/-- A peer is closed, and the route of the owner is restored. -/
theorem Lent.close {broker : Broker} (lent : Lent broker) (index : Nat) (answered : Bool) :
    Lent (broker.close index answered) := by
  unfold Broker.close
  by_cases closed : (broker.peer index).closed = true
  · rw [if_pos closed]
    exact lent
  rw [if_neg closed]
  have others (peer : Nat) (other : peer ≠ index) :
      ((broker.setPeer index fun peer => { peer with closed := true }).peer peer) =
        broker.peer peer := by
    unfold Broker.setPeer
    exact Function.update_of_ne other _ broker.peer
  have listed (peer : Nat) (known : peer < broker.count)
      (still : ((broker.setPeer index fun peer => { peer with closed := true }).peer peer).closed =
        false) : peer ∈ broker.peers.erase index := by
    have other : peer ≠ index := by
      rintro rfl
      unfold Broker.setPeer at still
      dsimp only at still
      rw [Function.update_self] at still
      exact nomatch still
    rw [others peer other] at still
    exact (List.mem_erase_of_ne other).mpr (lent.listed peer known still)
  by_cases owned : broker.owner = some index
  · have routed := lent.routed
    rw [owned] at routed
    refine ⟨?_, ?_, listed⟩ <;> dsimp only <;> rw [if_pos owned]
    · rw [decide_eq_true owned]
      exact routed.restore answered
    · exact fun _ none => nomatch none
  · refine ⟨?_, ?_, listed⟩ <;> dsimp only <;> rw [if_neg owned]
    · rw [decide_eq_false owned]
      exact lent.routed.pass owned answered
    · intro peer same
      rw [others peer fun here => owned (here ▸ same)]
      exact lent.owner peer same

/-- So are several. -/
theorem Lent.foldl {broker : Broker} (lent : Lent broker) (peers : List Nat)
    (turn : Broker → Nat → Broker)
    (keeps : ∀ broker index, Lent broker → Lent (turn broker index)) :
    Lent (peers.foldl turn broker) := by
  induction peers generalizing broker with
  | nil => exact lent
  | cons index peers ih => exact ih (keeps broker index lent)

/-- The owner has the route. -/
theorem Lent.grant {broker : Broker} (lent : Lent broker) (index : Nat) (now : UInt64) :
    Lent (broker.grant index now) := by
  have ready := @Lent.setPeer broker lent index
    (fun peer => { peer with ready := true, lastRenew := now }) rfl
  exact ⟨ready.routed, ready.owner, ready.listed⟩

/-- A peer that sends a message is closed, goes on, or is the owner where there is none. -/
theorem Lent.receive {broker : Broker} (lent : Lent broker) {index : Nat} (moment : Moment)
    (message : Option XpcFields) (known : index < broker.count) :
    Lent (broker.receive index moment message) := by
  unfold Broker.receive
  dsimp only
  by_cases gone : ((broker.peer index).closed || broker.stopped) = true
  · rw [if_pos gone]
    exact lent
  rw [if_neg gone]
  cases message.bind Broker.request with
  | none => exact lent.close index false
  | some asked =>
    obtain ⟨value, active⟩ := asked
    dsimp only
    split
    · exact lent.close index false
    split
    · exact lent.close index false
    split
    · exact lent.close index true
    split
    · split
      · exact lent.close index false
      · exact lent.grant index moment.now
    by_cases owned : broker.owner.isSome = true
    · rw [if_pos owned]
      exact lent.close index false
    · rw [if_neg owned]
      have routed := lent.routed
      rw [Option.not_isSome_iff_eq_none.mp owned] at routed
      have lasting := @Lent.setPeer broker lent index
        (fun peer => { peer with generation := value, lastRenew := moment.now }) rfl
      refine ⟨routed.select index, ?_, lasting.listed⟩
      rintro _ ⟨⟩
      have still : (broker.peer index).closed = false := by
        simp only [Bool.or_eq_true, not_or, Bool.not_eq_true] at gone
        exact gone.1
      exact ⟨(@closed_setPeer broker index index
        (fun peer => { peer with generation := value, lastRenew := moment.now }) rfl).trans still,
        known⟩

/-- What is behind a block closes a peer or goes on with it. -/
theorem Lent.settle {broker : Broker} (lent : Lent broker) (moment : Moment) (result : Bool)
    (job : Job) : Lent (broker.settle moment result job) := by
  unfold Broker.settle
  cases job with
  | select index =>
    dsimp only
    split
    · exact lent
    split
    · exact lent.close index false
    · exact lent.grant index moment.now
  | close index owned answered =>
    dsimp only
    split
    · exact ⟨lent.routed, lent.owner, lent.listed⟩
    · exact lent
  | recover => exact ⟨lent.routed, lent.owner, lent.listed⟩
  | stop => exact lent

/-- A peer that connects is not the owner. -/
theorem Lent.accept {broker : Broker} (lent : Lent broker) (moment : Moment) :
    Lent (broker.accept moment) := by
  unfold Broker.accept
  split
  · exact lent
  · have others (peer : Nat) (other : peer ≠ broker.count) :
        Function.update broker.peer broker.count { lastRenew := moment.now } peer =
          broker.peer peer := Function.update_of_ne other _ broker.peer
    refine ⟨lent.routed, fun peer same => ?_, fun peer known still => ?_⟩ <;> dsimp only at *
    · obtain ⟨still, known⟩ := lent.owner peer same
      rw [others peer (by omega)]
      exact ⟨still, Nat.lt_succ_of_lt known⟩
    · by_cases last : peer = broker.count
      · exact List.mem_append_right _ (List.mem_singleton.mpr last)
      · rw [others peer last] at still
        exact List.mem_append_left _ (lent.listed peer (by omega) still)

/-- Nothing is recovered while there is an owner. -/
theorem Lent.tick {broker : Broker} (lent : Lent broker) (moment : Moment) :
    Lent (broker.tick moment) := by
  unfold Broker.tick
  split
  · exact lent
  have ticked := lent.foldl broker.peers (fun broker index =>
    if broker.expired moment index then broker.close index false else broker) (by
      intro broker index lent
      split
      · exact lent.close index false
      · exact lent)
  generalize broker.peers.foldl _ broker = ticked_broker at ticked ⊢
  dsimp only
  by_cases free : (ticked_broker.owner.isNone && !ticked_broker.maintenance) = true
  · rw [if_pos free]
    have none := Option.isNone_iff_eq_none.mp (Bool.and_eq_true_iff.mp free).1
    have routed := ticked.routed
    rw [none] at routed
    have recovered := routed.recover
    rw [← none] at recovered
    exact ⟨recovered, ticked.owner, ticked.listed⟩
  · rw [if_neg free]
    exact ticked

/-- A peer that is among those that are closed is not the owner behind it. -/
theorem Lent.foldl_close {broker : Broker} (lent : Lent broker) (peers : List Nat) {peer : Nat}
    (owner : (peers.foldl (fun broker index => broker.close index false) broker).owner =
      some peer) : broker.owner = some peer ∧ peer ∉ peers := by
  induction peers generalizing broker with
  | nil => exact ⟨owner, List.not_mem_nil⟩
  | cons index peers ih =>
    obtain ⟨owned, others⟩ := ih (lent.close index false) owner
    unfold Broker.close at owned
    by_cases closed : (broker.peer index).closed = true
    · rw [if_pos closed] at owned
      refine ⟨owned, List.not_mem_cons_of_ne_of_not_mem ?_ others⟩
      rintro rfl
      exact nomatch (lent.owner peer owned).1.symm.trans closed
    · rw [if_neg closed] at owned
      dsimp only at owned
      split at owned
      case isTrue => exact nomatch owned
      case isFalse other =>
        refine ⟨owned, List.not_mem_cons_of_ne_of_not_mem ?_ others⟩
        rintro rfl
        exact other owned

/-- The last recovery follows when every peer is closed. -/
theorem Lent.stop {broker : Broker} (lent : Lent broker) : Lent broker.stop := by
  unfold Broker.stop
  dsimp only
  have stopping : Lent { broker with stopped := true } := ⟨lent.routed, lent.owner, lent.listed⟩
  have stopped := stopping.foldl broker.peers (fun broker index => broker.close index false)
    fun broker index lent => lent.close index false
  have gone := @Lent.foldl_close _ stopping broker.peers
  generalize broker.peers.foldl _ _ = closed at stopped gone ⊢
  have none : closed.owner = none := by
    cases owner : closed.owner with
    | none => rfl
    | some peer =>
      obtain ⟨owned, other⟩ := gone owner
      obtain ⟨still, known⟩ := lent.owner peer owned
      exact (other (lent.listed peer known still)).elim
  have routed := stopped.routed
  rw [none] at routed
  have behind := routed.stop
  rw [← none] at behind
  exact ⟨behind, stopped.owner, stopped.listed⟩

end Plank.Output
