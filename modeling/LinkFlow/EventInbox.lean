/-
The inbox of device events in the browser: what arrives on the page's socket and
what its user marks, next to a feed that forgets nothing.  Only the newest items
of the feed are in the inbox, which is all that its check for repeated events
sees.
-/
import LinkFlow.RealtimeStreams
import LinkFlow.Lib.RecentWindow

namespace LinkFlow

namespace EventInbox

open Realtime RecentWindow

universe u v

section Page

/-- `meta`, with no value where a member is undefined. -/
structure EnvelopeInfo where
  eventID : Option Json
  occurredAt : Option Json
  tenantID : Option Json

inductive Callback where
  | connectionChanged (payload : Option Json) (info : EnvelopeInfo)
  | propertyChanged (payload : Option Json) (info : EnvelopeInfo)
  | eventReceived (payload : Option Json) (info : EnvelopeInfo)

variable {B : Type v}

/-- The callback that a text on the socket leads to; `json?` is `JSON.parse`.
The members of the envelope are passed on unchecked. -/
def handleMessage (json? : B → Option Json) (raw : B) : Option Callback :=
  match json? raw with
  | none => none
  | some envelope =>
      match envelope.field? "event_type" with
      | some (.str eventType) =>
          let info : EnvelopeInfo :=
            { eventID := envelope.field? "event_id"
              occurredAt := envelope.field? "occurred_at"
              tenantID := envelope.field? "tenant_id" }
          let payload := envelope.field? "payload"
          if eventType = "device.connection.changed" then
            some (.connectionChanged payload info)
          else if eventType = "device.property.changed" then
            some (.propertyChanged payload info)
          else if eventType = "device.event.received" then
            some (.eventReceived payload info)
          else none
      | _ => none

/-- `first === second` for values of different texts: no object or array of one
is one of the other. -/
def strictlyEqual : Option Json → Option Json → Bool
  | none, none => true
  | some .null, some .null => true
  | some (.bool first), some (.bool second) => first == second
  | some (.num first _), some (.num second _) => first == second
  | some (.str first), some (.str second) => first == second
  | _, _ => false

/-- `payload` is what is spread into the item; the other members win over its
own. -/
structure EventInboxItem where
  payload : Option Json
  eventID : Option Json
  occurredAt : Option Json
  receivedAt : String
  read : Bool

structure EventInboxState where
  items : List EventInboxItem
  unreadCount : Nat

def maxInboxItems : Nat := 20

def countUnread (items : List EventInboxItem) : Nat :=
  items.foldl (fun total item => total + if item.read then 0 else 1) 0

def EventInboxState.empty : EventInboxState := ⟨[], 0⟩

def EventInboxState.pushEvent (state : EventInboxState) (payload : Option Json)
    (info : EnvelopeInfo) (now : String) : EventInboxState :=
  if state.items.any fun item => strictlyEqual item.eventID info.eventID then
    state
  else
    let item : EventInboxItem :=
      { payload
        eventID := info.eventID
        occurredAt := info.occurredAt
        receivedAt := now
        read := false }
    let items := (item :: state.items).take maxInboxItems
    { items, unreadCount := countUnread items }

def EventInboxState.markAllRead (state : EventInboxState) : EventInboxState :=
  { items := state.items.map fun item =>
      if item.read then item else { item with read := true }
    unreadCount := 0 }

def EventInboxState.markRead (state : EventInboxState) (eventID : String) :
    EventInboxState :=
  let items := state.items.map fun item =>
    if strictlyEqual item.eventID (some (.str eventID)) then
      { item with read := true }
    else item
  { items, unreadCount := countUnread items }

/-- What happens on the page: a text comes on the socket at some time, or the
user marks something. -/
inductive Happening (B : Type v) where
  | message (raw : B) (now : String)
  | markAllRead
  | markRead (eventID : String)

/-- The page gives `onEventReceived` only. -/
def EventInboxState.step (json? : B → Option Json) (state : EventInboxState) :
    Happening B → EventInboxState
  | .message raw now =>
      match handleMessage json? raw with
      | some (.eventReceived payload info) => state.pushEvent payload info now
      | _ => state
  | .markAllRead => state.markAllRead
  | .markRead eventID => state.markRead eventID

/-- The store after what has happened since it was made. -/
def inboxAfter (json? : B → Option Json) (happened : List (Happening B)) :
    EventInboxState :=
  happened.foldl (EventInboxState.step json?) .empty

end Page

section Feed

variable {B : Type v} {json? : B → Option Json} {happening : Happening B}
  {happened : List (Happening B)} {feed : List EventInboxItem}
  {item arrived : EventInboxItem}

/-- The unread item that an event makes. -/
def Happening.item? (json? : B → Option Json) : Happening B →
    Option EventInboxItem
  | .message raw now =>
      match handleMessage json? raw with
      | some (.eventReceived payload info) =>
          some ⟨payload, info.eventID, info.occurredAt, now, false⟩
      | _ => none
  | _ => none

def Happening.marks (item : EventInboxItem) : Happening B → Bool
  | .message _ _ => false
  | .markAllRead => true
  | .markRead eventID => strictlyEqual item.eventID (some (.str eventID))

def sameEvent (first second : EventInboxItem) : Bool :=
  strictlyEqual first.eventID second.eventID

/-- The item after something that may mark it. -/
def EventInboxItem.after (item : EventInboxItem) (happening : Happening B) :
    EventInboxItem :=
  { item with read := item.read || happening.marks item }

/-- An inbox that keeps every item, and takes an event unless it is one of the
newest that it has. -/
def feedStep (json? : B → Option Json) (feed : List EventInboxItem)
    (happening : Happening B) : List EventInboxItem :=
  match happening.item? json? with
  | some item => record maxInboxItems sameEvent feed item
  | none => feed.map fun item => item.after happening

def feedAfter (json? : B → Option Json) (happened : List (Happening B)) :
    List EventInboxItem :=
  happened.foldl (feedStep json?) []

theorem inboxAfter_concat :
    inboxAfter json? (happened ++ [happening]) =
      (inboxAfter json? happened).step json? happening := by
  rw [inboxAfter, List.foldl_append]
  rfl

theorem feedAfter_concat :
    feedAfter json? (happened ++ [happening]) =
      feedStep json? (feedAfter json? happened) happening := by
  rw [feedAfter, List.foldl_append]
  rfl

theorem countUnread_eq (items : List EventInboxItem) :
    countUnread items = items.countP fun item => !item.read := by
  have hfold : ∀ total, items.foldl
      (fun total item => total + if item.read then 0 else 1) total =
        total + items.countP fun item => !item.read := by
    induction items with
    | nil => exact fun _ => rfl
    | cons item rest ih =>
        intro total
        rw [List.foldl_cons, ih, List.countP_cons]
        cases item.read
        · simp only [Bool.false_eq_true, ↓reduceIte, Bool.not_false]
          omega
        · simp
  rw [countUnread, hfold, Nat.zero_add]

/-- The store that holds these items. -/
def EventInboxState.holding (items : List EventInboxItem) : EventInboxState :=
  { items, unreadCount := countUnread items }

theorem map_after_message {raw : B} {now : String}
    (items : List EventInboxItem) :
    items.map (EventInboxItem.after · (.message raw now)) = items := by
  simp [EventInboxItem.after, Happening.marks]

theorem after_markAllRead :
    (if item.read then item else { item with read := true }) =
      item.after (.markAllRead : Happening B) := by
  rcases item with ⟨payload, eventID, occurredAt, receivedAt, read⟩
  cases read <;> rfl

theorem after_markRead {eventID : String} :
    (if strictlyEqual item.eventID (some (.str eventID)) then
        { item with read := true }
      else item) = item.after (.markRead eventID : Happening B) := by
  by_cases hmarked : strictlyEqual item.eventID (some (.str eventID)) = true
  · simp [EventInboxItem.after, Happening.marks, hmarked]
  · simp [EventInboxItem.after, Happening.marks, hmarked]

theorem countUnread_markAllRead (items : List EventInboxItem) :
    countUnread (items.map
      (EventInboxItem.after · (.markAllRead : Happening B))) =
      0 := by
  simp [countUnread_eq, EventInboxItem.after, Happening.marks]

theorem holding_pushEvent {payload : Option Json} {info : EnvelopeInfo}
    {now : String} (items : List EventInboxItem) :
    (EventInboxState.holding items).pushEvent payload info now =
      .holding (push maxInboxItems sameEvent items
        ⟨payload, info.eventID, info.occurredAt, now, false⟩) := by
  rw [push, apply_ite EventInboxState.holding]
  rfl

/-- A store with the right count has it after every step. -/
theorem holding_step (items : List EventInboxItem) :
    (EventInboxState.holding items).step json? happening =
      .holding (match happening.item? json? with
        | some arrived => push maxInboxItems sameEvent items arrived
        | none => items.map (EventInboxItem.after · happening)) := by
  cases happening with
  | message raw now =>
      rcases hcallback : handleMessage json? raw with
        _ | ⟨payload, info⟩ | ⟨payload, info⟩ | ⟨payload, info⟩
      all_goals simp only [EventInboxState.step, Happening.item?, hcallback,
        map_after_message]
      exact holding_pushEvent items
  | markAllRead =>
      simp only [EventInboxState.step, EventInboxState.markAllRead,
        Happening.item?, after_markAllRead (B := B)]
      exact congrArg (EventInboxState.mk _) (countUnread_markAllRead items).symm
  | markRead eventID =>
      simp only [EventInboxState.step, EventInboxState.markRead,
        Happening.item?, after_markRead (B := B)]
      rfl

/-- Whatever happens, the store holds the front of the feed. -/
theorem inboxAfter_eq (json? : B → Option Json)
    (happened : List (Happening B)) :
    inboxAfter json? happened =
      .holding ((feedAfter json? happened).take maxInboxItems) := by
  induction happened using List.reverseRecOn with
  | nil => rfl
  | append_singleton happened happening ih =>
      rw [inboxAfter_concat, ih, holding_step, feedAfter_concat, feedStep]
      cases happening.item? json? with
      | some arrived => exact congrArg _ push_take
      | none => exact congrArg _ List.map_take

theorem spaced_feedAfter (json? : B → Option Json)
    (happened : List (Happening B)) :
    Spaced maxInboxItems sameEvent (feedAfter json? happened) := by
  induction happened using List.reverseRecOn with
  | nil => exact .nil
  | append_singleton happened happening ih =>
      rw [feedAfter_concat, feedStep]
      cases happening.item? json? with
      | some arrived => exact ih.record
      | none => exact ih.map fun _ _ => rfl

theorem item?_eq_some_iff :
    happening.item? json? = some arrived ↔
      ∃ raw now payload info, happening = .message raw now ∧
        handleMessage json? raw = some (.eventReceived payload info) ∧
        arrived = ⟨payload, info.eventID, info.occurredAt, now, false⟩ := by
  constructor
  · intro hitem
    cases happening with
    | message raw now =>
        rcases hcallback : handleMessage json? raw with
          _ | ⟨payload, info⟩ | ⟨payload, info⟩ | ⟨payload, info⟩
        all_goals simp only [Happening.item?, hcallback, reduceCtorEq,
          Option.some.injEq] at hitem
        exact ⟨raw, now, payload, info, rfl, hcallback, hitem.symm⟩
    | markAllRead => cases hitem
    | markRead eventID => cases hitem
  · rintro ⟨raw, now, payload, info, rfl, hcallback, rfl⟩
    simp only [Happening.item?, hcallback]

theorem after_of_item (hitem : happening.item? json? = some arrived)
    (item : EventInboxItem) : item.after happening = item := by
  obtain ⟨raw, now, -, -, rfl, -, -⟩ := item?_eq_some_iff.mp hitem
  simp [EventInboxItem.after, Happening.marks]

/-- A step marks what is in the feed, and puts at most one new item there. -/
theorem mem_feedStep_iff :
    item ∈ feedStep json? feed happening ↔
      (∃ old ∈ feed, item = old.after happening) ∨
        happening.item? json? = some item ∧
          ∀ old ∈ feed.take maxInboxItems, sameEvent old item = false := by
  rw [feedStep]
  cases hitem : happening.item? json? with
  | none =>
      simp only [List.mem_map, reduceCtorEq, false_and, or_false]
      exact exists_congr fun old => and_congr_right fun _ => eq_comm
  | some arrived =>
      simp only [mem_record_iff, after_of_item hitem, exists_eq_right',
        Option.some.injEq]
      exact or_congr_right ⟨fun ⟨heq, hfresh⟩ => ⟨heq.symm, heq ▸ hfresh⟩,
        fun ⟨heq, hfresh⟩ => ⟨heq.symm, heq ▸ hfresh⟩⟩

/-- What an event's item has become after what happened since. -/
def EventInboxItem.since (arrived : EventInboxItem)
    (after : List (Happening B)) :
    EventInboxItem :=
  { arrived with read := after.any fun happening => happening.marks arrived }

theorem since_nil (hitem : happening.item? json? = some arrived) :
    arrived.since ([] : List (Happening B)) = arrived := by
  obtain ⟨raw, now, payload, info, -, -, rfl⟩ := item?_eq_some_iff.mp hitem
  rfl

theorem since_concat {after : List (Happening B)} :
    arrived.since (after ++ [happening]) =
      (arrived.since after).after happening := by
  simp only [EventInboxItem.since, EventInboxItem.after, List.any_append,
    List.any_cons, List.any_nil, Bool.or_false]
  cases happening <;> rfl

/-- The item came with a text, and is read if and only if it has been marked
since. -/
def StemsFrom (json? : B → Option Json) (happened : List (Happening B))
    (item : EventInboxItem) : Prop :=
  ∃ before event after arrived, happened = before ++ event :: after ∧
    event.item? json? = some arrived ∧ item = arrived.since after

theorem stemsFrom_of_mem (hmem : item ∈ feedAfter json? happened) :
    StemsFrom json? happened item := by
  induction happened using List.reverseRecOn generalizing item with
  | nil => cases hmem
  | append_singleton happened happening ih =>
      rw [feedAfter_concat, mem_feedStep_iff] at hmem
      rcases hmem with ⟨old, hold, rfl⟩ | ⟨hitem, -⟩
      · obtain ⟨before, event, after, arrived, rfl, harrived, rfl⟩ := ih hold
        exact ⟨before, event, after ++ [happening], arrived, by simp, harrived,
          since_concat.symm⟩
      · exact ⟨happened, happening, [], item, rfl, hitem,
          (since_nil hitem).symm⟩

/-- An event whose id is not in the inbox when it comes stays in the feed. -/
theorem since_mem_feedAfter {before after : List (Happening B)}
    (hitem : happening.item? json? = some arrived)
    (hfresh : ∀ old ∈ (inboxAfter json? before).items,
      sameEvent old arrived = false) :
    arrived.since after ∈ feedAfter json? (before ++ happening :: after) := by
  induction after using List.reverseRecOn with
  | nil =>
      rw [inboxAfter_eq] at hfresh
      rw [feedAfter_concat, since_nil hitem, mem_feedStep_iff]
      exact Or.inr ⟨hitem, hfresh⟩
  | append_singleton after last ih =>
      rw [← List.cons_append, ← List.append_assoc, feedAfter_concat,
        since_concat, mem_feedStep_iff]
      exact Or.inl ⟨_, ih, rfl⟩

/-- The inbox is the front of a feed that forgets nothing, with the right count.
Each item of the feed came with a text of its own and is read if and only if it
has been marked since; each event is in the feed, unless the inbox had its id
when it came; and items of one event lie an inbox apart. -/
theorem inbox_shows_the_feed (json? : B → Option Json)
    (happened : List (Happening B)) :
    (inboxAfter json? happened).items =
        (feedAfter json? happened).take maxInboxItems ∧
      (inboxAfter json? happened).unreadCount =
        ((inboxAfter json? happened).items.countP fun item => !item.read) ∧
      ((inboxAfter json? happened).items.Pairwise
        fun newer older => sameEvent older newer = false) ∧
      Spaced maxInboxItems sameEvent (feedAfter json? happened) ∧
      (∀ item ∈ feedAfter json? happened, StemsFrom json? happened item) ∧
      ∀ before event after arrived, happened = before ++ event :: after →
        event.item? json? = some arrived →
          (∃ item ∈ (inboxAfter json? before).items,
            sameEvent item arrived = true) ∨
            arrived.since after ∈ feedAfter json? happened := by
  have hspaced := spaced_feedAfter json? happened
  have hitems : (inboxAfter json? happened).items =
      (feedAfter json? happened).take maxInboxItems := by
    rw [inboxAfter_eq]
    rfl
  refine ⟨hitems, ?_, ?_, hspaced, fun item => stemsFrom_of_mem, ?_⟩
  · rw [← countUnread_eq, inboxAfter_eq]
    rfl
  · rw [hitems]
    exact hspaced.window
  · rintro before event after arrived rfl harrived
    by_cases hknown : ∃ item ∈ (inboxAfter json? before).items,
        sameEvent item arrived = true
    · exact Or.inl hknown
    · refine Or.inr (since_mem_feedAfter harrived fun old hold => ?_)
      exact Bool.eq_false_iff.mpr fun hsame => hknown ⟨old, hold, hsame⟩

end Feed

section Topic

variable {C : Type u} {B : Type v} [DecidableEq C] {topic : Topic B}
  {capacity : Nat} {tenantIDs : C → List String}
  {backend : Backend C B} {conn : C} {happened : List (Happening B)}
  {item : EventInboxItem}

def Happening.text? : Happening B → Option B
  | .message raw _ => some raw
  | _ => none

/-- Where the page reads one connection, every item of the inbox is for an event
that the consumer has handled for that connection, of a tenant that it is
registered for. -/
theorem inbox_follows_the_topic (json? : B → Option Json)
    (hreach : (backends topic capacity tenantIDs).ReachableVia (InOrderTo conn)
      backend)
    (hread : happened.filterMap Happening.text? ⊆ (backend.record conn).written)
    (hitem : item ∈ (inboxAfter json? happened).items) :
    ∃ handled ∈ backend.handled, handled.Reaches topic tenantIDs conn ∧
      ∃ before now after arrived,
        happened = before ++ .message (topic.value handled.message) now ::
          after ∧
        Happening.item? json? (.message (topic.value handled.message) now) =
          some arrived ∧ item = arrived.since after := by
  rw [inboxAfter_eq] at hitem
  obtain ⟨before, event, after, arrived, rfl, harrived, rfl⟩ :=
    stemsFrom_of_mem (List.mem_of_mem_take hitem)
  obtain ⟨raw, now, -, -, rfl, -, -⟩ := item?_eq_some_iff.mp harrived
  have hraw : raw ∈ backend.stream topic tenantIDs conn := by
    refine (follows_of_reachable hreach).written.subset (hread ?_)
    exact List.mem_filterMap.mpr ⟨.message raw now, by simp, rfl⟩
  simp only [Backend.stream, List.mem_map, List.mem_filter,
    decide_eq_true_eq] at hraw
  obtain ⟨handled, ⟨hmem, hreaches⟩, rfl⟩ := hraw
  exact ⟨handled, hmem, hreaches, before, now, after, arrived, rfl, harrived,
    rfl⟩

/-- The topic of the sample, with events that devices sent. -/
def reportedTopic : Topic String where
  value := sampleTopic.value
  json? text :=
    let event (tenantID : String) : Json :=
      .obj [("event_id", .str tenantID),
        ("event_type", .str "device.event.received"),
        ("tenant_id", .str tenantID),
        ("payload", .obj [("event_name", .str "alarm")])]
    if text = tenantRecord "a" then some (event "a")
    else if text = tenantRecord "b" then some (event "b")
    else none

/-- The first event comes, and its reader marks it. -/
def readRun : List (Happening String) :=
  [.message (tenantRecord "b") "2026-01-01T00:00:00Z", .markRead "b"]

/-- The consumer sees the same topic. -/
theorem backends_reportedTopic :
    backends reportedTopic defaultWriteBuffer twoOwners =
      backends sampleTopic defaultWriteBuffer twoOwners := by
  have htenant : reportedTopic.tenant? = sampleTopic.tenant? := by
    funext ⟨partition, offset⟩
    rcases offset with _ | _ | offset <;> rfl
  exact backends_congr htenant rfl

theorem inbox_follows_the_topic_alarm : ∃ backend item,
    rejoined = some backend ∧
    (inboxAfter reportedTopic.json? readRun).items = [item] ∧ item.read = true ∧
    ∃ handled ∈ backend.handled, handled.Reaches reportedTopic twoOwners 0 := by
  obtain ⟨backend, hrun⟩ : ∃ backend, rejoined = some backend := ⟨_, rfl⟩
  have hreach : (backends reportedTopic defaultWriteBuffer
      twoOwners).ReachableVia (InOrderTo 0) backend := by
    rw [backends_reportedTopic]
    exact .of_along (.start ⟨fun _ => 0, rfl⟩) rejoiningRun_inOrder hrun
  have hitems : (inboxAfter reportedTopic.json? readRun).items =
      [⟨some (.obj [("event_name", .str "alarm")]), some (.str "b"), none,
        "2026-01-01T00:00:00Z", true⟩] :=
    rfl
  have hread : readRun.filterMap Happening.text? ⊆
      (backend.record 0).written := by
    cases hrun
    exact List.Subset.refl _
  obtain ⟨handled, hmem, hreaches, -⟩ :=
    inbox_follows_the_topic reportedTopic.json? hreach hread
      (hitems ▸ List.mem_singleton_self _)
  exact ⟨backend, _, hrun, hitems, rfl, handled, hmem, hreaches⟩

end Topic

end EventInbox

end LinkFlow
