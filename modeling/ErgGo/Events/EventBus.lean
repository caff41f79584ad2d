import ErgGo.Lib.GoRuntime

/-!
# The event bus

A bus keeps its subscriptions by event type, each under a number of its own. What a run of calls leaves
are the subscriptions that were neither cancelled nor swept away, in the order in which they were made.
-/

namespace ErgGo.Events
open Go

structure EventEnvelope where
  eventType : String
  sourceService : String
  payload : String
  timestamp : Time
  traceID : String := ""
  deriving DecidableEq

/-- Handlers are numbered; what they do is not looked at. -/
abbrev EventHandler := ℕ

structure LocalSubscription where
  handler : EventHandler
  filter : String
  cancelID : ℕ
  deriving DecidableEq

structure EventBus where
  serviceName : String
  localSubs : GoMap (List LocalSubscription) := ∅
  nextCancelID : ℕ := 0

/-- What the function that `SubscribeLocal` returns has captured. -/
structure CancelFunc where
  eventType : String
  cancelID : ℕ
  deriving DecidableEq

namespace EventBus

variable (b : EventBus)

/-- The subscriptions of an event type. -/
def subs (eventType : String) : List LocalSubscription := (b.localSubs.lookup eventType).getD []

def subscribeLocal (eventType : String) (handler : EventHandler) : EventBus × CancelFunc :=
  let id := b.nextCancelID + 1
  ({ b with
      nextCancelID := id
      localSubs := b.localSubs.insert eventType
        (b.subs eventType ++ [{ handler := handler, filter := eventType, cancelID := id }]) },
    ⟨eventType, id⟩)

/-- The first subscription of the number is removed, if there is one. -/
def cancel (f : CancelFunc) : EventBus :=
  if (b.subs f.eventType).any (fun s => s.cancelID = f.cancelID) then
    { b with
      localSubs := b.localSubs.insert f.eventType ((b.subs f.eventType).eraseP fun s => s.cancelID = f.cancelID) }
  else b

def unsubscribeAll : EventBus := { b with localSubs := ∅ }

/-- The handlers that are called, one after the other, with the envelope. -/
def publishLocal (envelope : EventEnvelope) : List (EventHandler × EventEnvelope) :=
  (b.subs envelope.eventType).map fun sub => (sub.handler, envelope)

end EventBus

/-- A call of the bus; a cancel is that of the subscription of this number. -/
inductive BusCall where
  | subscribe (eventType : String) (handler : EventHandler)
  | cancel (n : ℕ)
  | unsubscribeAll

/-- The bus and the cancel functions that it has returned. -/
structure Subscribers where
  bus : EventBus
  cancels : List CancelFunc := []

def Subscribers.step (s : Subscribers) : BusCall → Subscribers
  | .subscribe eventType handler =>
    ⟨(s.bus.subscribeLocal eventType handler).1, s.cancels ++ [(s.bus.subscribeLocal eventType handler).2]⟩
  | .cancel n => { s with bus := (s.cancels[n]?).elim s.bus s.bus.cancel }
  | .unsubscribeAll => { s with bus := s.bus.unsubscribeAll }

def Subscribers.run (s : Subscribers) (calls : List BusCall) : Subscribers := calls.foldl Subscribers.step s

/-! ## The subscriptions that a run leaves -/

/-- The subscription of this number is neither cancelled nor swept away. -/
def stands (n : ℕ) (calls : List BusCall) : Bool :=
  calls.all fun
    | .cancel m => m ≠ n
    | .unsubscribeAll => false
    | .subscribe .. => true

/-- The handlers of the subscriptions to the event type that stand at the end, in the order in which they
were made; the next subscription has the number `n`. -/
def standing (eventType : String) (n : ℕ) : List BusCall → List EventHandler
  | [] => []
  | .subscribe filter handler :: calls =>
    (if filter = eventType ∧ stands n calls then [handler] else []) ++ standing eventType (n + 1) calls
  | _ :: calls => standing eventType n calls

/-- A subscription and its number. -/
structure Subscription where
  number : ℕ
  eventType : String
  handler : EventHandler

def Subscription.local (x : Subscription) : LocalSubscription := ⟨x.handler, x.eventType, x.number + 1⟩

/-- What the bus holds are these subscriptions, each type apart, and its cancel functions are those of all
subscriptions ever made. -/
structure Represents (s : Subscribers) (l : List Subscription) : Prop where
  held : ∀ eventType, s.bus.subs eventType = (l.filter fun x => x.eventType = eventType).map Subscription.local
  counter : s.bus.nextCancelID = s.cancels.length
  numbered : ∀ n f, s.cancels[n]? = some f → f.cancelID = n + 1
  cancels : ∀ x ∈ l, s.cancels[x.number]? = some ⟨x.eventType, x.number + 1⟩
  distinct : (l.map Subscription.number).Nodup

/-- What one call leaves of the subscriptions. -/
def after (n : ℕ) (l : List Subscription) : BusCall → List Subscription
  | .subscribe eventType handler => l ++ [⟨n, eventType, handler⟩]
  | .cancel m => l.filter fun x => x.number ≠ m
  | .unsubscribeAll => []

section Steps

variable {s : Subscribers} {l : List Subscription}

lemma subs_insert (b : EventBus) (eventType eventType' : String) (l : List LocalSubscription) (n : ℕ) :
    ({ b with nextCancelID := n, localSubs := b.localSubs.insert eventType l } : EventBus).subs eventType' =
      if eventType' = eventType then l else b.subs eventType' := by
  unfold EventBus.subs
  dsimp only
  split
  · next heq => rw [heq, AList.lookup_insert, Option.getD_some]
  · next hne => rw [AList.lookup_insert_ne hne]

lemma represents_subscribe (h : Represents s l) (eventType : String) (handler : EventHandler) :
    Represents (s.step (.subscribe eventType handler)) (after s.cancels.length l (.subscribe eventType handler)) where
  held eventType' := by
    change EventBus.subs { s.bus with
      nextCancelID := _, localSubs := s.bus.localSubs.insert eventType _ } eventType' = _
    rw [subs_insert, after, List.filter_append, List.map_append, ← h.held]
    split
    · next heq => simp [heq, h.counter, Subscription.local]
    · next hne => simp [Ne.symm hne]
  counter := by
    change s.bus.nextCancelID + 1 = (s.cancels ++ [_]).length
    rw [h.counter, List.length_append, List.length_singleton]
  numbered n f hf := by
    change (s.cancels ++ [(⟨eventType, s.bus.nextCancelID + 1⟩ : CancelFunc)])[n]? = some f at hf
    rw [List.getElem?_append] at hf
    split at hf
    · exact h.numbered n f hf
    · next hlen =>
      rw [List.getElem?_singleton] at hf
      split at hf
      · obtain rfl := Option.some.inj hf
        change s.bus.nextCancelID + 1 = n + 1
        rw [h.counter]
        omega
      · cases hf
  cancels x hx := by
    change (s.cancels ++ [(⟨eventType, s.bus.nextCancelID + 1⟩ : CancelFunc)])[x.number]? = _
    obtain hx | hx := List.mem_append.mp hx
    · have hold := h.cancels x hx
      obtain ⟨hlt, -⟩ := List.getElem?_eq_some_iff.mp hold
      rw [List.getElem?_append_left hlt, hold]
    · obtain rfl := List.mem_singleton.mp hx
      rw [List.getElem?_append_right le_rfl, Nat.sub_self, h.counter]
      rfl
  distinct := by
    rw [after, List.map_append, List.nodup_append_comm]
    refine List.nodup_cons.mpr ⟨fun hmem => ?_, h.distinct⟩
    obtain ⟨x, hx, hnumber⟩ := List.mem_map.mp hmem
    obtain ⟨hlt, -⟩ := List.getElem?_eq_some_iff.mp (h.cancels x hx)
    exact absurd hnumber hlt.ne

lemma represents_unsubscribeAll (h : Represents s l) :
    Represents (s.step .unsubscribeAll) (after s.cancels.length l .unsubscribeAll) where
  held _ := rfl
  counter := h.counter
  numbered := h.numbered
  cancels _ hx := absurd hx List.not_mem_nil
  distinct := List.nodup_nil

/-- Of subscriptions with distinct numbers, the first of a number is the only one. -/
lemma eraseP_eq_filter {l : List Subscription} (hl : (l.map Subscription.number).Nodup) (n : ℕ) :
    (l.map Subscription.local).eraseP (fun x => x.cancelID = n + 1) =
      (l.filter fun x => x.number ≠ n).map Subscription.local := by
  induction l with
  | nil => rfl
  | cons x l ih =>
    obtain ⟨hfresh, hl⟩ := List.nodup_cons.mp hl
    rw [List.map_cons]
    by_cases hx : x.number = n
    · have hrest : ∀ y ∈ l, y.number ≠ n := fun y hy heq =>
        hfresh (hx ▸ heq ▸ List.mem_map_of_mem hy)
      rw [List.eraseP_cons_of_pos (by simp [Subscription.local, hx]), List.filter_cons_of_neg (by simp [hx]),
        List.filter_eq_self.mpr fun y hy => decide_eq_true (hrest y hy)]
    · rw [List.eraseP_cons_of_neg (by simp [Subscription.local, hx]), ih hl, List.filter_cons_of_pos (by simp [hx]),
        List.map_cons]

lemma subs_cancel (b : EventBus) (f : CancelFunc) (eventType : String) : (b.cancel f).subs eventType =
    if eventType = f.eventType then (b.subs eventType).eraseP (fun x => x.cancelID = f.cancelID)
    else b.subs eventType := by
  unfold EventBus.cancel
  split
  · rw [subs_insert]
    split
    · next heq => rw [heq]
    · rfl
  · next hnone =>
    rw [Bool.not_eq_true, List.any_eq_false] at hnone
    split
    · next heq =>
      subst heq
      exact (List.eraseP_of_forall_not fun x hx => by simpa using hnone x hx).symm
    · rfl

lemma represents_cancel (h : Represents s l) (n : ℕ) :
    Represents (s.step (.cancel n)) (after s.cancels.length l (.cancel n)) := by
  have hsub : (after s.cancels.length l (.cancel n)).Sublist l := List.filter_sublist
  refine ⟨fun eventType => ?_, ?_, h.numbered, fun x hx => h.cancels x (hsub.subset hx),
    h.distinct.sublist (hsub.map _)⟩
  · change ((s.cancels[n]?).elim s.bus s.bus.cancel).subs eventType = _
    rw [after, List.filter_comm]
    cases hf : s.cancels[n]? with
    | none =>
      -- There is no subscription of this number yet.
      have hall : ∀ x ∈ l.filter (fun x => x.eventType = eventType), decide (x.number ≠ n) = true := by
        intro x hx
        refine decide_eq_true fun heq => ?_
        have hstored := h.cancels x (List.mem_filter.mp hx).1
        rw [heq, hf] at hstored
        cases hstored
      rw [List.filter_eq_self.mpr hall]
      exact h.held eventType
    | some f =>
      have hid := h.numbered n f hf
      change (s.bus.cancel f).subs eventType = _
      rw [subs_cancel, h.held, hid]
      have hdistinct : ((l.filter fun x => x.eventType = eventType).map Subscription.number).Nodup :=
        h.distinct.sublist (List.filter_sublist.map _)
      split
      · exact eraseP_eq_filter hdistinct n
      · next hother =>
        have hall : ∀ x ∈ l.filter (fun x => x.eventType = eventType), decide (x.number ≠ n) = true := by
          intro x hx
          obtain ⟨hx, htype⟩ := List.mem_filter.mp hx
          refine decide_eq_true fun heq => hother ?_
          have hstored := h.cancels x hx
          rw [heq, hf] at hstored
          rw [← of_decide_eq_true htype, Option.some.inj hstored]
        rw [List.filter_eq_self.mpr hall]
  · change ((s.cancels[n]?).elim s.bus s.bus.cancel).nextCancelID = _
    cases s.cancels[n]? with
    | none => exact h.counter
    | some f =>
      refine Eq.trans ?_ h.counter
      change (s.bus.cancel f).nextCancelID = _
      unfold EventBus.cancel
      split <;> rfl

lemma Represents.step (h : Represents s l) (call : BusCall) :
    Represents (s.step call) (after s.cancels.length l call) := by
  cases call with
  | subscribe eventType handler => exact represents_subscribe h eventType handler
  | cancel n => exact represents_cancel h n
  | unsubscribeAll => exact represents_unsubscribeAll h

end Steps

/-- What a run leaves of subscriptions, and what it adds to them. -/
lemma Represents.run {s : Subscribers} {l : List Subscription} (h : Represents s l) (calls : List BusCall)
    (eventType : String) : ((s.run calls).bus.subs eventType).map LocalSubscription.handler =
      (l.filter fun x => x.eventType = eventType ∧ stands x.number calls).map Subscription.handler ++
        standing eventType s.cancels.length calls := by
  induction calls generalizing s l with
  | nil =>
    have hall : (l.filter fun x => x.eventType = eventType ∧ stands x.number []) =
        l.filter fun x => x.eventType = eventType :=
      List.filter_congr fun x _ => by simp [stands]
    rw [Subscribers.run, List.foldl_nil, h.held, hall, standing, List.append_nil, List.map_map]
    rfl
  | cons call calls ih =>
    have hnext := ih (h.step call)
    rw [Subscribers.run, List.foldl_cons]
    refine hnext.trans ?_
    cases call with
    | subscribe filter handler =>
      have hlength : (s.step (.subscribe filter handler)).cancels.length = s.cancels.length + 1 := by
        simp [Subscribers.step]
      have hstands (n : ℕ) : stands n (.subscribe filter handler :: calls) = stands n calls := by simp [stands]
      rw [after, List.filter_append, List.map_append, hlength, standing, List.append_assoc]
      simp only [hstands]
      congr 2
      by_cases hstand : filter = eventType ∧ stands s.cancels.length calls
      · simp [hstand]
      · simp [hstand]
    | cancel n =>
      have hfilter :
          ((l.filter fun x => x.number ≠ n).filter fun x => x.eventType = eventType ∧ stands x.number calls) =
            l.filter fun x => x.eventType = eventType ∧ stands x.number (.cancel n :: calls) := by
        rw [List.filter_filter]
        refine List.filter_congr fun x _ => ?_
        have hstands : stands x.number (.cancel n :: calls) = (decide (n ≠ x.number) && stands x.number calls) := rfl
        rw [hstands]
        simp only [Bool.and_eq_true, decide_eq_true_eq, Bool.decide_and, Bool.decide_eq_true, @ne_comm _ n]
        rw [Bool.and_assoc, Bool.and_comm (stands x.number calls)]
      rw [after, hfilter]
      rfl
    | unsubscribeAll =>
      have hnone : (l.filter fun x => x.eventType = eventType ∧ stands x.number (.unsubscribeAll :: calls)) = [] :=
        List.filter_eq_nil_iff.mpr fun x _ hx => absurd (of_decide_eq_true hx).2 Bool.false_ne_true
      rw [after, hnone]
      rfl

/-- Whatever calls were made, an event is handed once to each subscription to its type that was neither
cancelled nor swept away since, in the order of the subscriptions, and to no other handler. -/
theorem publishLocal_run (serviceName : String) (calls : List BusCall) (envelope : EventEnvelope) :
    ((⟨{ serviceName := serviceName }, []⟩ : Subscribers).run calls).bus.publishLocal envelope =
      (standing envelope.eventType 0 calls).map fun handler => (handler, envelope) := by
  have hstart : Represents ⟨{ serviceName := serviceName }, []⟩ [] :=
    ⟨fun _ => rfl, rfl, fun _ _ hf => (by cases hf), fun _ hx => absurd hx List.not_mem_nil, List.nodup_nil⟩
  have hrun : (((⟨{ serviceName := serviceName }, []⟩ : Subscribers).run calls).bus.subs envelope.eventType).map
      LocalSubscription.handler = standing envelope.eventType 0 calls :=
    hstart.run calls envelope.eventType
  rw [EventBus.publishLocal, ← hrun, List.map_map]
  rfl

/-! ## Events of other services -/

/-- `json.Marshal` and `json.Unmarshal` on envelopes, which come back as they were if the payload is the text
that `json.Marshal` gives for a value, and the time has a four-digit year. -/
class EventJSON where
  canonical : EventEnvelope → Prop
  marshal : EventEnvelope → String
  unmarshal : String → Option EventEnvelope
  unmarshal_marshal : ∀ envelope, canonical envelope → unmarshal (marshal envelope) = some envelope

def channelName (eventType : String) : String := "erg:events:" ++ eventType

/-- A connection of `SubscribeMany`, with the messages that wait on it. One without a channel gets none, as
where no connection is made. -/
structure RedisSubscription where
  serviceName : String
  handlers : GoMap EventHandler
  messages : List (String × String) := []
  closed : Bool := false

/-- The subscriptions of all services, and the calls of their handlers so far. -/
structure Network where
  subscriptions : List RedisSubscription := []
  handled : List (ℕ × EventHandler × EventEnvelope) := []

section Delivery

variable [EventJSON]

/-- The type that the channel was subscribed for. -/
def RedisSubscription.eventOf (sub : RedisSubscription) (channel : String) : Option String :=
  (sub.handlers.keys.filter (· ≠ "")).find? fun eventType => channelName eventType = channel

/-- The call that a message leads to; a service leaves out its own events. -/
def RedisSubscription.handleRedisMessage (sub : RedisSubscription) (message : String × String) :
    Option (EventHandler × EventEnvelope) := do
  let eventType ← sub.eventOf message.1
  let handler ← sub.handlers.lookup eventType
  let envelope ← EventJSON.unmarshal message.2
  if envelope.sourceService = sub.serviceName then none else some (handler, envelope)

inductive NetworkCall where
  | subscribeMany (serviceName : String) (handlers : GoMap EventHandler)
  /-- Redis may lose the message on some of the connections. -/
  | publish (envelope : EventEnvelope) (canonical : EventJSON.canonical envelope) (lost : List ℕ)
  | receive (n : ℕ)
  | cancel (n : ℕ)

/-- A message comes to a connection that is open and has subscribed to its channel. -/
def RedisSubscription.deliver (sub : RedisSubscription) (envelope : EventEnvelope) (lost : Bool) : RedisSubscription :=
  if lost || sub.closed || (sub.eventOf (channelName envelope.eventType)).isNone then sub
  else { sub with messages := sub.messages ++ [(channelName envelope.eventType, EventJSON.marshal envelope)] }

def Network.step (net : Network) : NetworkCall → Network
  | .subscribeMany serviceName handlers =>
    { net with subscriptions := net.subscriptions ++ [{ serviceName := serviceName, handlers := handlers }] }
  | .publish envelope _ lost =>
    { net with subscriptions := net.subscriptions.mapIdx fun n sub => sub.deliver envelope (n ∈ lost) }
  | .receive n =>
    match net.subscriptions[n]? with
    | none => net
    | some sub =>
      match sub.messages with
      | [] => net
      | message :: messages =>
        { subscriptions := net.subscriptions.set n { sub with messages := messages }
          handled := net.handled ++ ((sub.handleRedisMessage message).map (n, ·)).toList }
  | .cancel n =>
    { net with subscriptions := net.subscriptions.modify n fun sub => { sub with closed := true } }

def Network.run (net : Network) (calls : List NetworkCall) : Network := calls.foldl Network.step net

/-- The calls of handlers over one connection. -/
def Network.handledBy (net : Network) (n : ℕ) : List (EventHandler × EventEnvelope) :=
  net.handled.filterMap fun call => if call.1 = n then some call.2 else none

/-- What is still to be handled over a connection. -/
def Network.waiting (net : Network) (n : ℕ) : List (EventHandler × EventEnvelope) :=
  (net.subscriptions[n]?).elim [] fun sub => sub.messages.filterMap sub.handleRedisMessage

def NetworkCall.published : NetworkCall → Option EventEnvelope
  | .publish envelope _ _ => some envelope
  | _ => none

/-- The call that an event is to lead to. -/
def concerns (serviceName : String) (handlers : GoMap EventHandler) (envelope : EventEnvelope) :
    Option (EventHandler × EventEnvelope) :=
  if envelope.eventType = "" ∨ envelope.sourceService = serviceName then none
  else (handlers.lookup envelope.eventType).map fun handler => (handler, envelope)

/-- The connection stays open and loses nothing. -/
def Undisturbed (n : ℕ) (calls : List NetworkCall) : Prop :=
  ∀ call ∈ calls, (∀ envelope canonical lost, call = .publish envelope canonical lost → n ∉ lost) ∧ call ≠ .cancel n

/-- Over the connection, the events published since are handled in their order, as far as they have come. -/
structure Follows (net : Network) (n : ℕ) (serviceName : String) (handlers : GoMap EventHandler)
    (published : List EventEnvelope) (undisturbed : Prop) : Prop where
  subscribed : ∃ sub, net.subscriptions[n]? = some sub ∧ sub.serviceName = serviceName ∧ sub.handlers = handlers ∧
    (undisturbed → sub.closed = false)
  sublist : (net.handledBy n ++ net.waiting n).Sublist (published.filterMap (concerns serviceName handlers))
  complete : undisturbed → net.handledBy n ++ net.waiting n = published.filterMap (concerns serviceName handlers)

omit [EventJSON] in
lemma eventOf_channelName (sub : RedisSubscription) (eventType : String) : sub.eventOf (channelName eventType) =
    if eventType ∈ sub.handlers.keys ∧ eventType ≠ "" then some eventType else none := by
  have hinjective : ∀ t, channelName t = channelName eventType → t = eventType := fun t h => by
    refine String.toList_inj.mp ((List.append_right_injective "erg:events:".toList) ?_)
    simpa only [channelName, String.toList_append] using congrArg String.toList h
  cases hfind : sub.eventOf (channelName eventType) with
  | none =>
    refine (if_neg fun h => ?_).symm
    have hnone := List.find?_eq_none.mp hfind eventType (List.mem_filter.mpr ⟨h.1, decide_eq_true h.2⟩)
    exact hnone (decide_eq_true rfl)
  | some t =>
    unfold RedisSubscription.eventOf at hfind
    obtain rfl := hinjective t (of_decide_eq_true (List.find?_some hfind :))
    obtain ⟨hmem, hne⟩ := List.mem_filter.mp (List.mem_of_find?_eq_some hfind)
    exact (if_pos ⟨hmem, of_decide_eq_true hne⟩).symm

lemma handleRedisMessage_published (sub : RedisSubscription) {envelope : EventEnvelope}
    (hcanonical : EventJSON.canonical envelope) :
    sub.handleRedisMessage (channelName envelope.eventType, EventJSON.marshal envelope) =
      concerns sub.serviceName sub.handlers envelope := by
  unfold RedisSubscription.handleRedisMessage concerns
  dsimp only
  rw [eventOf_channelName]
  by_cases hkey : envelope.eventType ∈ sub.handlers.keys ∧ envelope.eventType ≠ ""
  · obtain ⟨handler, hhandler⟩ := Option.isSome_iff_exists.mp (AList.lookup_isSome.mpr (AList.mem_keys.mpr hkey.1))
    simp [hkey, hhandler, EventJSON.unmarshal_marshal envelope hcanonical]
  · rw [if_neg hkey]
    by_cases hempty : envelope.eventType = ""
    · simp [hempty]
    · have hnone : sub.handlers.lookup envelope.eventType = none :=
        AList.lookup_eq_none.mpr fun hmem => hkey ⟨AList.mem_keys.mp hmem, hempty⟩
      simp [hnone]

lemma Network.waiting_of_getElem? {net : Network} {n : ℕ} {sub : RedisSubscription}
    (h : net.subscriptions[n]? = some sub) : net.waiting n = sub.messages.filterMap sub.handleRedisMessage := by
  rw [Network.waiting, h, Option.elim_some]

variable {net : Network} {n : ℕ} {serviceName : String} {handlers : GoMap EventHandler}
  {published : List EventEnvelope} {undisturbed undisturbed' : Prop}

lemma follows_subscribeMany (h : Follows net n serviceName handlers published undisturbed) (serviceName' : String)
    (handlers' : GoMap EventHandler) (hundisturbed : undisturbed' → undisturbed) :
    Follows (net.step (.subscribeMany serviceName' handlers')) n serviceName handlers published undisturbed' := by
  obtain ⟨sub, hsub, hname, hhandlers, hopen⟩ := h.subscribed
  have hsub' : (net.step (.subscribeMany serviceName' handlers')).subscriptions[n]? = some sub := by
    change (net.subscriptions ++ [_])[n]? = some sub
    rw [List.getElem?_append_left (List.getElem?_eq_some_iff.mp hsub).1, hsub]
  have hwaiting : (net.step (.subscribeMany serviceName' handlers')).waiting n = net.waiting n := by
    rw [Network.waiting_of_getElem? hsub', Network.waiting_of_getElem? hsub]
  refine ⟨⟨sub, hsub', hname, hhandlers, fun hu => hopen (hundisturbed hu)⟩, ?_, fun hu => ?_⟩
  · rw [hwaiting]
    exact h.sublist
  · rw [hwaiting]
    exact h.complete (hundisturbed hu)

lemma handleRedisMessage_deliver (sub : RedisSubscription) (envelope : EventEnvelope) (lost : Bool) :
    (sub.deliver envelope lost).handleRedisMessage = sub.handleRedisMessage := by
  unfold RedisSubscription.deliver
  split <;> rfl

omit [EventJSON] in
lemma concerns_of_eventOf_eq_none {sub : RedisSubscription} {envelope : EventEnvelope}
    (h : sub.eventOf (channelName envelope.eventType) = none) :
    concerns sub.serviceName sub.handlers envelope = none := by
  rw [eventOf_channelName] at h
  unfold concerns
  split
  · rfl
  · next hconcerned =>
    have hnokey : envelope.eventType ∉ sub.handlers := fun hmem => by
      rw [if_pos ⟨AList.mem_keys.mp hmem, fun hempty => hconcerned (.inl hempty)⟩] at h
      cases h
    rw [AList.lookup_eq_none.mpr hnokey, Option.map_none]

/-- What a published event adds to what waits on a connection. -/
lemma messages_deliver (sub : RedisSubscription) {envelope : EventEnvelope} (hcanonical : EventJSON.canonical envelope)
    (lost : Bool) : ∃ arrived : List (EventHandler × EventEnvelope),
      (sub.deliver envelope lost).messages.filterMap sub.handleRedisMessage =
        sub.messages.filterMap sub.handleRedisMessage ++ arrived ∧
      arrived.Sublist (concerns sub.serviceName sub.handlers envelope).toList ∧
      (lost = false → sub.closed = false → arrived = (concerns sub.serviceName sub.handlers envelope).toList) := by
  unfold RedisSubscription.deliver
  split
  · next hdropped =>
    refine ⟨[], (List.append_nil _).symm, List.nil_sublist _, fun hlost hclosed => ?_⟩
    rw [hlost, hclosed, Bool.false_or, Bool.false_or, Option.isNone_iff_eq_none] at hdropped
    rw [concerns_of_eventOf_eq_none hdropped, Option.toList_none]
  · refine ⟨_, ?_, List.Sublist.refl _, fun _ _ => rfl⟩
    rw [List.filterMap_append, List.filterMap_cons, handleRedisMessage_published sub hcanonical]
    cases concerns sub.serviceName sub.handlers envelope <;> rfl

lemma follows_publish (h : Follows net n serviceName handlers published undisturbed) {envelope : EventEnvelope}
    (hcanonical : EventJSON.canonical envelope) (lost : List ℕ)
    (hundisturbed : undisturbed' → undisturbed ∧ n ∉ lost) :
    Follows (net.step (.publish envelope hcanonical lost)) n serviceName handlers (published ++ [envelope])
      undisturbed' := by
  obtain ⟨sub, hsub, rfl, rfl, hopen⟩ := h.subscribed
  have hsub' : (net.step (.publish envelope hcanonical lost)).subscriptions[n]? =
      some (sub.deliver envelope (n ∈ lost)) := by
    change (net.subscriptions.mapIdx fun n sub => sub.deliver envelope (n ∈ lost))[n]? = _
    rw [List.getElem?_mapIdx, hsub, Option.map_some]
  obtain ⟨arrived, hmessages, hsublist, hcomplete⟩ := messages_deliver sub hcanonical (n ∈ lost)
  have htotal : (net.step (.publish envelope hcanonical lost)).handledBy n ++
      (net.step (.publish envelope hcanonical lost)).waiting n = net.handledBy n ++ net.waiting n ++ arrived := by
    rw [Network.waiting_of_getElem? hsub', handleRedisMessage_deliver, hmessages, Network.waiting_of_getElem? hsub,
      List.append_assoc]
    rfl
  have hdue : (published ++ [envelope]).filterMap (concerns sub.serviceName sub.handlers) =
      published.filterMap (concerns sub.serviceName sub.handlers) ++
        (concerns sub.serviceName sub.handlers envelope).toList := by
    rw [List.filterMap_append, List.filterMap_cons]
    cases concerns sub.serviceName sub.handlers envelope <;> rfl
  refine ⟨⟨_, hsub', ?_, ?_, fun hu => ?_⟩, ?_, fun hu => ?_⟩
  · unfold RedisSubscription.deliver
    split <;> rfl
  · unfold RedisSubscription.deliver
    split <;> rfl
  · have hstill := hopen (hundisturbed hu).1
    unfold RedisSubscription.deliver
    split <;> exact hstill
  · rw [htotal, hdue]
    exact h.sublist.append hsublist
  · obtain ⟨hbefore, hnotlost⟩ := hundisturbed hu
    rw [htotal, hdue, h.complete hbefore, hcomplete (decide_eq_false hnotlost) (hopen hbefore)]

lemma follows_receive (h : Follows net n serviceName handlers published undisturbed) (m : ℕ)
    (hundisturbed : undisturbed' → undisturbed) :
    Follows (net.step (.receive m)) n serviceName handlers published undisturbed' := by
  obtain ⟨sub, hsub, hname, hhandlers, hopen⟩ := h.subscribed
  -- In every case the calls made and the calls due are together what they were.
  suffices hstep : (∃ sub', (net.step (.receive m)).subscriptions[n]? = some sub' ∧ sub'.serviceName = sub.serviceName ∧
      sub'.handlers = sub.handlers ∧ sub'.closed = sub.closed) ∧
      (net.step (.receive m)).handledBy n ++ (net.step (.receive m)).waiting n = net.handledBy n ++ net.waiting n by
    obtain ⟨⟨sub', hsub', hname', hhandlers', hclosed'⟩, htotal⟩ := hstep
    refine ⟨⟨sub', hsub', hname'.trans hname, hhandlers'.trans hhandlers, fun hu => ?_⟩, ?_, fun hu => ?_⟩
    · rw [hclosed', hopen (hundisturbed hu)]
    · rw [htotal]
      exact h.sublist
    · rw [htotal]
      exact h.complete (hundisturbed hu)
  cases hreceiver : net.subscriptions[m]? with
  | none =>
    have hidle : net.step (.receive m) = net := by simp only [Network.step, hreceiver]
    rw [hidle]
    exact ⟨⟨sub, hsub, rfl, rfl, rfl⟩, rfl⟩
  | some receiver =>
    cases hmessages : receiver.messages with
    | nil =>
      have hidle : net.step (.receive m) = net := by simp only [Network.step, hreceiver, hmessages]
      rw [hidle]
      exact ⟨⟨sub, hsub, rfl, rfl, rfl⟩, rfl⟩
    | cons message messages =>
      have hnet : net.step (.receive m) =
          { subscriptions := net.subscriptions.set m { receiver with messages := messages }
            handled := net.handled ++ ((receiver.handleRedisMessage message).map (m, ·)).toList } := by
        simp only [Network.step, hreceiver, hmessages]
      rw [hnet]
      by_cases hm : m = n
      · subst hm
        obtain rfl := Option.some.inj (hsub.symm.trans hreceiver)
        have hset : (net.subscriptions.set m { sub with messages := messages })[m]? =
            some { sub with messages := messages } :=
          List.getElem?_set_self (List.getElem?_eq_some_iff.mp hsub).1
        refine ⟨⟨_, hset, rfl, rfl, rfl⟩, ?_⟩
        rw [Network.waiting_of_getElem? hset, Network.waiting_of_getElem? hsub, hmessages, Network.handledBy,
          Network.handledBy, List.filterMap_append, List.filterMap_cons]
        cases hcall : sub.handleRedisMessage message with
        | none =>
          rw [Option.map_none, Option.toList_none, List.filterMap_nil, List.append_nil]
          rfl
        | some call =>
          rw [Option.map_some, Option.toList_some, List.filterMap_cons, if_pos rfl, List.filterMap_nil,
            List.append_assoc]
          rfl
      · have hset : (net.subscriptions.set m { receiver with messages := messages })[n]? = some sub := by
          rw [List.getElem?_set_ne hm, hsub]
        refine ⟨⟨sub, hset, rfl, rfl, rfl⟩, ?_⟩
        rw [Network.waiting_of_getElem? hset, Network.waiting_of_getElem? hsub, Network.handledBy, Network.handledBy,
          List.filterMap_append]
        cases receiver.handleRedisMessage message with
        | none => rw [Option.map_none, Option.toList_none, List.filterMap_nil, List.append_nil]
        | some call =>
          rw [Option.map_some, Option.toList_some, List.filterMap_cons, if_neg hm, List.filterMap_nil, List.append_nil]

lemma follows_cancel (h : Follows net n serviceName handlers published undisturbed) (m : ℕ)
    (hundisturbed : undisturbed' → undisturbed ∧ m ≠ n) :
    Follows (net.step (.cancel m)) n serviceName handlers published undisturbed' := by
  obtain ⟨sub, hsub, hname, hhandlers, hopen⟩ := h.subscribed
  have hsub' : (net.step (.cancel m)).subscriptions[n]? =
      some (if m = n then { sub with closed := true } else sub) := by
    change (net.subscriptions.modify m fun sub => { sub with closed := true })[n]? = _
    rw [List.getElem?_modify, hsub]
    split <;> rfl
  have hwaiting : (net.step (.cancel m)).waiting n = net.waiting n := by
    rw [Network.waiting_of_getElem? hsub', Network.waiting_of_getElem? hsub]
    split <;> rfl
  refine ⟨⟨_, hsub', ?_, ?_, fun hu => ?_⟩, ?_, fun hu => ?_⟩
  · rw [← hname]
    split <;> rfl
  · rw [← hhandlers]
    split <;> rfl
  · rw [if_neg (hundisturbed hu).2]
    exact hopen (hundisturbed hu).1
  · rw [hwaiting]
    exact h.sublist
  · rw [hwaiting]
    exact h.complete (hundisturbed hu).1

lemma Follows.step (h : Follows net n serviceName handlers published undisturbed) (call : NetworkCall) :
    Follows (net.step call) n serviceName handlers (published ++ call.published.toList)
      (undisturbed ∧ Undisturbed n [call]) := by
  cases call with
  | subscribeMany serviceName' handlers' =>
    change Follows _ n serviceName handlers (published ++ []) _
    rw [List.append_nil]
    exact follows_subscribeMany h serviceName' handlers' And.left
  | publish envelope hcanonical lost =>
    exact follows_publish h hcanonical lost fun hu =>
      ⟨hu.1, (hu.2 _ (List.mem_singleton_self _)).1 envelope hcanonical lost rfl⟩
  | receive m =>
    change Follows _ n serviceName handlers (published ++ []) _
    rw [List.append_nil]
    exact follows_receive h m And.left
  | cancel m =>
    change Follows _ n serviceName handlers (published ++ []) _
    rw [List.append_nil]
    exact follows_cancel h m fun hu => ⟨hu.1, fun heq => (hu.2 _ (List.mem_singleton_self _)).2 (heq ▸ rfl)⟩

lemma Follows.run (h : Follows net n serviceName handlers published undisturbed) (calls : List NetworkCall) :
    Follows (net.run calls) n serviceName handlers (published ++ calls.filterMap NetworkCall.published)
      (undisturbed ∧ Undisturbed n calls) := by
  induction calls generalizing net published undisturbed with
  | nil =>
    rw [List.filterMap_nil, List.append_nil]
    exact ⟨h.subscribed.imp fun sub hsub => ⟨hsub.1, hsub.2.1, hsub.2.2.1, fun hu => hsub.2.2.2 hu.1⟩, h.sublist,
      fun hu => h.complete hu.1⟩
  | cons call calls ih =>
    have hrest := ih (h.step call)
    have hpublished : published ++ (call :: calls).filterMap NetworkCall.published =
        published ++ call.published.toList ++ calls.filterMap NetworkCall.published := by
      rw [List.filterMap_cons, List.append_assoc]
      cases call.published <;> rfl
    have hcalls : undisturbed ∧ Undisturbed n (call :: calls) →
        (undisturbed ∧ Undisturbed n [call]) ∧ Undisturbed n calls := fun ⟨hu, hall⟩ =>
      ⟨⟨hu, fun c hc => hall c (List.mem_singleton.mp hc ▸ List.mem_cons_self)⟩,
        fun c hc => hall c (List.mem_cons_of_mem _ hc)⟩
    rw [hpublished, Network.run, List.foldl_cons]
    exact ⟨hrest.subscribed.imp fun sub hsub => ⟨hsub.1, hsub.2.1, hsub.2.2.1, fun hu => hsub.2.2.2 (hcalls hu)⟩,
      hrest.sublist, fun hu => hrest.complete (hcalls hu)⟩

/-- Only connections that were made handle events. -/
def Numbered (net : Network) : Prop := ∀ call ∈ net.handled, call.1 < net.subscriptions.length

lemma Numbered.step (h : Numbered net) (call : NetworkCall) : Numbered (net.step call) := by
  cases call with
  | subscribeMany serviceName handlers =>
    intro call hcall
    change call.1 < (net.subscriptions ++ [_]).length
    rw [List.length_append]
    exact Nat.lt_add_right _ (h call hcall)
  | publish envelope hcanonical lost =>
    intro call hcall
    change call.1 < (net.subscriptions.mapIdx _).length
    rw [List.length_mapIdx]
    exact h call hcall
  | cancel m =>
    intro call hcall
    change call.1 < (net.subscriptions.modify m _).length
    rw [List.length_modify]
    exact h call hcall
  | receive m =>
    cases hreceiver : net.subscriptions[m]? with
    | none =>
      simp only [Network.step, hreceiver]
      exact h
    | some receiver =>
      cases hmessages : receiver.messages with
      | nil =>
        simp only [Network.step, hreceiver, hmessages]
        exact h
      | cons message messages =>
        simp only [Network.step, hreceiver, hmessages]
        intro call hcall
        rw [List.length_set]
        obtain hcall | hcall := List.mem_append.mp hcall
        · exact h call hcall
        · obtain ⟨_, -, rfl⟩ := Option.map_eq_some_iff.mp (Option.mem_toList.mp hcall)
          exact (List.getElem?_eq_some_iff.mp hreceiver).1

lemma Numbered.run (h : Numbered net) (calls : List NetworkCall) : Numbered (net.run calls) := by
  induction calls generalizing net with
  | nil => exact h
  | cons call calls ih => exact ih (h.step call)

/-- Whatever is subscribed, published, received and cancelled, a connection calls its handlers for the events
that were published since to their types by other services, each at most once and in the order in which they
were published; while Redis loses none of its messages and it is not cancelled, what it has not handled is on
its way. -/
theorem subscribeMany_run (before calls : List NetworkCall) (serviceName : String) (handlers : GoMap EventHandler) :
    ((Network.run {} (before ++ .subscribeMany serviceName handlers :: calls)).handledBy
      (Network.run {} before).subscriptions.length).Sublist
        ((calls.filterMap NetworkCall.published).filterMap (concerns serviceName handlers)) ∧
    (Undisturbed (Network.run {} before).subscriptions.length calls →
      (Network.run {} (before ++ .subscribeMany serviceName handlers :: calls)).handledBy
          (Network.run {} before).subscriptions.length ++
        (Network.run {} (before ++ .subscribeMany serviceName handlers :: calls)).waiting
          (Network.run {} before).subscriptions.length =
        (calls.filterMap NetworkCall.published).filterMap (concerns serviceName handlers)) := by
  have hnumbered : Numbered (Network.run {} before) :=
    Numbered.run (fun _ hcall => absurd hcall List.not_mem_nil) before
  have hrun : Network.run {} (before ++ .subscribeMany serviceName handlers :: calls) =
      ((Network.run {} before).step (.subscribeMany serviceName handlers)).run calls := by
    simp only [Network.run, List.foldl_append, List.foldl_cons]
  generalize Network.run {} before = net at hnumbered hrun ⊢
  have hnew : (net.step (.subscribeMany serviceName handlers)).subscriptions[net.subscriptions.length]? =
      some { serviceName := serviceName, handlers := handlers } :=
    List.getElem?_concat_length
  have hnone : (net.step (.subscribeMany serviceName handlers)).handledBy net.subscriptions.length = [] :=
    List.filterMap_eq_nil_iff.mpr fun call hcall => if_neg (hnumbered call hcall).ne
  have hstart : Follows (net.step (.subscribeMany serviceName handlers)) net.subscriptions.length serviceName handlers
      [] True := by
    have htotal : (net.step (.subscribeMany serviceName handlers)).handledBy net.subscriptions.length ++
        (net.step (.subscribeMany serviceName handlers)).waiting net.subscriptions.length = [] := by
      rw [hnone, Network.waiting_of_getElem? hnew]
      rfl
    exact ⟨⟨_, hnew, rfl, rfl, fun _ => rfl⟩, htotal ▸ List.nil_sublist _, fun _ => htotal⟩
  have hend := hstart.run calls
  rw [List.nil_append] at hend
  rw [hrun]
  exact ⟨(List.sublist_append_left _ _).trans hend.sublist, fun hu => hend.complete ⟨trivial, hu⟩⟩

end Delivery

section Sample

namespace Sample

def plain (c : Char) : Bool := c.isAlphanum || c = '.'

/-- The plain text after a mark, and what follows it. -/
def field (mark : String) (text : List Char) : Option (List Char × List Char) :=
  (mark.toList.isPrefixOf? text).map fun rest => (rest.takeWhile plain, rest.dropWhile plain)

lemma isPrefixOf?_append (l l' : List Char) : l.isPrefixOf? (l ++ l') = some l' := by
  induction l with
  | nil => rfl
  | cons c l ih => simp [List.isPrefixOf?, ih]

lemma field_append (mark : String) {value rest : List Char} (hvalue : ∀ c ∈ value, plain c)
    (hrest : ∀ c ∈ rest.head?, plain c = false) : field mark (mark.toList ++ (value ++ rest)) = some (value, rest) := by
  have hstop : rest.takeWhile plain = [] ∧ rest.dropWhile plain = rest := by
    cases rest with
    | nil => exact ⟨rfl, rfl⟩
    | cons c rest => simp [hrest c rfl]
  rw [field, isPrefixOf?_append, Option.map_some, List.takeWhile_append_of_pos hvalue,
    List.dropWhile_append_of_pos hvalue, hstop.1, hstop.2, List.append_nil]

/-- 1 May 2024, 08:00. -/
def morning : Time := 63850147200 * 10 ^ 9

/-- The envelopes of plain names, with one plain id for a payload, of the first ten seconds of that morning. -/
def Plain (envelope : EventEnvelope) : Prop :=
  (∀ c ∈ envelope.eventType.toList, plain c) ∧ (∀ c ∈ envelope.sourceService.toList, plain c) ∧
    envelope.traceID = "" ∧ ∃ id : String, (∀ c ∈ id.toList, plain c) ∧
      envelope.payload = "\x7b\"id\":\"" ++ id ++ "\"\x7d" ∧
        ∃ n : Fin 10, envelope.timestamp = morning + n.val * 10 ^ 9

def marshal (envelope : EventEnvelope) : String :=
  "\x7b\"event_type\":\"" ++ envelope.eventType ++ "\",\"source_service\":\"" ++ envelope.sourceService ++
    "\",\"payload\":" ++ envelope.payload ++ ",\"timestamp\":\"2024-05-01T08:00:0" ++
    String.ofList [Nat.digitChar ((envelope.timestamp - morning) / 10 ^ 9).toNat] ++ "Z\"\x7d"

def unmarshal (text : String) : Option EventEnvelope := do
  let (eventType, rest) ← field "\x7b\"event_type\":\"" text.toList
  let (sourceService, rest) ← field "\",\"source_service\":\"" rest
  let (id, rest) ← field "\",\"payload\":\x7b\"id\":\"" rest
  let (seconds, _) ← field "\"\x7d,\"timestamp\":\"2024-05-01T08:00:0" rest
  return {
    eventType := String.ofList eventType
    sourceService := String.ofList sourceService
    payload := "\x7b\"id\":\"" ++ String.ofList id ++ "\"\x7d"
    timestamp := morning + ((seconds.headD '0').toNat - 48 : ℕ) * 10 ^ 9 }

lemma unmarshal_marshal (envelope : EventEnvelope) (h : Plain envelope) :
    unmarshal (marshal envelope) = some envelope := by
  obtain ⟨eventType, sourceService, payload, timestamp, traceID⟩ := envelope
  obtain ⟨htype, hsource, rfl, id, hid, rfl, n, rfl⟩ := h
  have hseconds : ((morning + (n.val : ℤ) * 10 ^ 9 - morning) / 10 ^ 9).toNat = n.val := by
    rw [add_sub_cancel_left, Int.mul_ediv_cancel _ (by decide), Int.toNat_natCast]
  have hdigit : ∀ n : Fin 10, (∀ c ∈ [Nat.digitChar n.val, 'Z'], plain c) ∧
      (Nat.digitChar n.val).toNat - 48 = n.val := by
    decide
  have hquote : ∀ (mark : String) (rest : List Char), mark.toList.head? = some '"' →
      ∀ c ∈ (mark.toList ++ rest).head?, plain c = false := by
    intro mark rest hmark c hc
    rw [List.head?_append, hmark, Option.some_or] at hc
    obtain rfl := Option.some.inj hc
    decide
  have hpayload : "\",\"payload\":\x7b\"id\":\"".toList = "\",\"payload\":".toList ++ "\x7b\"id\":\"".toList := by
    decide
  have htimestamp : "\"\x7d,\"timestamp\":\"2024-05-01T08:00:0".toList =
      "\"\x7d".toList ++ ",\"timestamp\":\"2024-05-01T08:00:0".toList := by
    decide
  have hend : "Z\"\x7d".toList = 'Z' :: "\"\x7d".toList := by decide
  have htext : (marshal ⟨eventType, sourceService, "\x7b\"id\":\"" ++ id ++ "\"\x7d",
      morning + n.val * 10 ^ 9, ""⟩).toList =
      "\x7b\"event_type\":\"".toList ++ (eventType.toList ++ ("\",\"source_service\":\"".toList ++
        (sourceService.toList ++ ("\",\"payload\":\x7b\"id\":\"".toList ++ (id.toList ++
          ("\"\x7d,\"timestamp\":\"2024-05-01T08:00:0".toList ++
            ([Nat.digitChar n.val, 'Z'] ++ "\"\x7d".toList))))))) := by
    unfold marshal
    rw [hseconds, hpayload, htimestamp]
    simp only [String.toList_append, hend, String.toList_ofList (l := [Nat.digitChar n.val])]
    simp only [List.append_assoc, List.cons_append, List.nil_append]
  unfold unmarshal
  rw [htext, field_append _ htype (hquote _ _ (by decide))]
  dsimp only [Option.bind_eq_bind, Option.bind_some]
  rw [field_append _ hsource (hquote _ _ (by decide))]
  dsimp only [Option.bind_some]
  rw [field_append _ hid (hquote _ _ (by decide))]
  dsimp only [Option.bind_some]
  rw [← List.append_nil ("\"\x7d".toList), field_append _ (hdigit n).1 (hquote _ _ (by decide))]
  dsimp only [Option.bind_some]
  rw [Option.pure_def, List.headD_cons, (hdigit n).2, String.ofList_toList, String.ofList_toList, String.ofList_toList]

/-- A JSON codec for these envelopes. -/
@[reducible] def plainJSON : EventJSON where
  canonical := Plain
  marshal := marshal
  unmarshal := unmarshal
  unmarshal_marshal := unmarshal_marshal

attribute [local instance] plainJSON

/-- The posts service has changed a post. -/
def postUpdated (n : Fin 10) : EventEnvelope :=
  { eventType := "post.updated"
    sourceService := "posts"
    payload := "\x7b\"id\":\"" ++ "p1" ++ "\"\x7d"
    timestamp := morning + n.val * 10 ^ 9 }

/-- The search service has a new user. -/
def userCreated (n : Fin 10) : EventEnvelope :=
  { eventType := "user.created"
    sourceService := "search"
    payload := "\x7b\"id\":\"" ++ "u1" ++ "\"\x7d"
    timestamp := morning + n.val * 10 ^ 9 }

lemma plain_postUpdated (n : Fin 10) : Plain (postUpdated n) := by
  have htype : ∀ c ∈ "post.updated".toList, plain c := by decide
  have hsource : ∀ c ∈ "posts".toList, plain c := by decide
  exact ⟨htype, hsource, rfl, "p1", by decide, rfl, n, rfl⟩

lemma plain_userCreated (n : Fin 10) : Plain (userCreated n) := by
  have htype : ∀ c ∈ "user.created".toList, plain c := by decide
  have hsource : ∀ c ∈ "search".toList, plain c := by decide
  exact ⟨htype, hsource, rfl, "u1", by decide, rfl, n, rfl⟩

def handlers : GoMap EventHandler := GoMap.setAll ∅ [("post.updated", 7), ("user.created", 8)]

/-- A connection of another service, and an event too early for the one looked at. -/
def before : List NetworkCall :=
  [.subscribeMany "mail" handlers, .publish (postUpdated 0) (plain_postUpdated 0) []]

/-- The other connection loses an event and is cancelled. -/
def calls : List NetworkCall :=
  [.publish (postUpdated 1) (plain_postUpdated 1) [0], .publish (userCreated 2) (plain_userCreated 2) [], .receive 1,
    .publish (postUpdated 3) (plain_postUpdated 3) [], .cancel 0]

end Sample

attribute [local instance] Sample.plainJSON

/-- The service gets what happened since it subscribed, in order, and nothing of its own. -/
theorem subscribeMany_sample :
    let net := Network.run {} (Sample.before ++ .subscribeMany "search" Sample.handlers :: Sample.calls)
    net.handledBy 1 ++ net.waiting 1 = [(7, Sample.postUpdated 1), (7, Sample.postUpdated 3)] := by
  have hundisturbed : Undisturbed 1 Sample.calls := by
    intro call hcall
    simp only [Sample.calls, List.mem_cons, List.not_mem_nil, or_false] at hcall
    rcases hcall with rfl | rfl | rfl | rfl | rfl <;> simp
  refine ((subscribeMany_run Sample.before Sample.calls "search" Sample.handlers).2 hundisturbed).trans ?_
  decide

end Sample

end ErgGo.Events
