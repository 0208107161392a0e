/-
The browser's side of a realtime connection, the effect of `useDevicesRealtime`,
together with the server's side of the connection that it has open.  The two
meet in the code of the close event only.
-/
import LinkFlow.RealtimeConn

namespace LinkFlow

namespace Realtime

section Effect

inductive DeviceRealtimeStatus where
  | idle
  | connecting
  | opened
  | reconnecting
  | closed
deriving Repr, DecidableEq

def minBackoffMs : Nat := 1000
def maxBackoffMs : Nat := 30000
def unauthorizedCloseCode : Nat := 1008

structure Timer where
  id : Nat
  delayMs : Nat
deriving Repr, DecidableEq

/-- The variables of the effect, and what the browser has of it: the sockets
with handlers whose close has not been reported, and the pending timers.  Both
are named by numbers. -/
structure Client where
  cancelled : Bool
  socket : Option Nat
  reconnectTimer : Option Nat
  backoffMs : Nat
  status : DeviceRealtimeStatus
  sockets : List Nat
  timers : List Timer
  fresh : Nat
deriving Repr, DecidableEq

/-- The effect before its first `connect`. -/
def Client.effect : Client where
  cancelled := false
  socket := none
  reconnectTimer := none
  backoffMs := minBackoffMs
  status := .idle
  sockets := []
  timers := []
  fresh := 0

/-- The handlers are taken off the socket, so its close is never reported. -/
def Client.cleanup (client : Client) : Client :=
  { client with
    timers := client.timers.filter fun timer =>
        client.reconnectTimer ≠ some timer.id
    reconnectTimer := none
    sockets := client.sockets.filter fun socket => client.socket ≠ some socket
    socket := none }

def Client.scheduleReconnect (client : Client) : Client :=
  if client.cancelled then client
  else
    { client with
      status := .reconnecting
      reconnectTimer := some client.fresh
      timers := client.timers ++ [⟨client.fresh, client.backoffMs⟩]
      fresh := client.fresh + 1 }

/-- `connect`.  The constructor of the socket may throw. -/
def Client.connect (client : Client) (constructed : Bool) : Client :=
  if client.cancelled then client
  else if constructed then
    { client with
      status := .connecting
      socket := some client.fresh
      sockets := client.sockets ++ [client.fresh]
      fresh := client.fresh + 1 }
  else Client.scheduleReconnect { client with status := .connecting }

/-- The callback of the reconnect timer. -/
def Client.timeout (client : Client) (constructed : Bool) : Client :=
  Client.connect
    { client with backoffMs := min (client.backoffMs * 2) maxBackoffMs }
    constructed

def Client.onopen (client : Client) : Client :=
  if client.cancelled then client
  else { client with backoffMs := minBackoffMs, status := .opened }

def Client.onclose (client : Client) (code : Nat) : Client :=
  let client := { client with socket := none }
  if client.cancelled then client
  else if code = unauthorizedCloseCode then { client with status := .closed }
  else client.scheduleReconnect

/-- What the effect returns to React. -/
def Client.unmount (client : Client) : Client :=
  { Client.cleanup { client with cancelled := true } with status := .idle }

end Effect

section Links

variable (M : Type u)

/-- The effect with the server's side of its connection, once that is accepted.
`unmounted` records that the cleanup has run. -/
structure Link where
  client : Client
  server : Option (Delivery M)
  unmounted : Bool
deriving Repr, DecidableEq

inductive LinkLabel where
  | accept
  | server (label : DeliveryLabel M)
  | opened (socket : Nat)
  | message (socket : Nat) (raw : String)
  | error (socket : Nat)
  | closed (socket : Nat) (code : Nat)
  | timeout (timer : Nat) (constructed : Bool)
  | unmount
deriving Repr, DecidableEq

variable {M}

/-- The code of a connection that was lost or never accepted. -/
def abnormalClosure : Nat := 1006

/-- The close frame of the server's side, or none. -/
def Link.closes (link : Link M) (code : Nat) : Bool :=
  code = abnormalClosure ||
    (link.server.bind fun server => server.session.conn.ws).any (·.code = code)

/-- The browser is done with a socket. -/
def Client.lose (client : Client) (socket : Nat) : Client :=
  { client with sockets := client.sockets.erase socket }

/-- The browser reports the close of a socket. -/
def Link.reportClose (link : Link M) (socket code : Nat) : Link M where
  client := (link.client.lose socket).onclose code
  server := none
  unmounted := link.unmounted

/-- The browser is done with a timer. -/
def Client.expire (client : Client) (timer : Nat) : Client :=
  { client with
    timers := client.timers.filter fun other => other.id ≠ timer }

/-- The browser fires a timer. -/
def Link.fire (link : Link M) (timer : Nat) (constructed : Bool) : Link M where
  client := (link.client.expire timer).timeout constructed
  server := link.server
  unmounted := link.unmounted

def Link.step (capacity : Nat) (link : Link M) :
    LinkLabel M → Option (Link M)
  | .accept =>
      if link.client.sockets ≠ [] ∧ link.server.isNone then
        some { link with server := some (Delivery.start M) }
      else none
  | .server label =>
      link.server.bind fun server =>
        (server.step capacity label).map fun server =>
          { link with server := some server }
  | .opened socket =>
      if socket ∈ link.client.sockets ∧ link.server.isSome then
        some { link with client := link.client.onopen }
      else none
  | .message socket _ | .error socket =>
      if socket ∈ link.client.sockets then some link else none
  | .closed socket code =>
      if socket ∈ link.client.sockets ∧ link.closes code then
        some (link.reportClose socket code)
      else none
  | .timeout timer constructed =>
      if timer ∈ link.client.timers.map Timer.id then
        some (link.fire timer constructed)
      else none
  | .unmount =>
      if link.unmounted then none
      else some { link with client := link.client.unmount, unmounted := true }

def Link.mount (M : Type u) (constructed : Bool) : Link M where
  client := Client.effect.connect constructed
  server := none
  unmounted := false

/-- All runs of the effect, from its mount. -/
def links (M : Type u) (capacity : Nat) :
    Transition.System (Link M) (LinkLabel M) where
  init link := ∃ constructed, link = Link.mount M constructed
  step := Link.step capacity

/-- Until the cleanup there is one socket and no timer or one timer and no
socket, after it there is neither, and the backoff keeps its bounds. -/
structure NeverStuck (link : Link M) : Prop where
  mounted : link.unmounted = false →
    (∃ socket, link.client.sockets = [socket] ∧ link.client.timers = []) ∨
      ∃ timer, link.client.sockets = [] ∧ link.client.timers = [timer]
  unmounted : link.unmounted = true →
    link.client.sockets = [] ∧ link.client.timers = []
  backoff : minBackoffMs ≤ link.client.backoffMs ∧
    link.client.backoffMs ≤ maxBackoffMs

/-- A close is not taken for a refusal of the credentials. -/
def Authorized : LinkLabel M → Prop
  | .closed _ code => code ≠ unauthorizedCloseCode
  | _ => True

/-- The variables of the effect name what the browser has of it. -/
structure Named (link : Link M) : Prop where
  cancelled : link.client.cancelled = link.unmounted
  sockets : link.client.sockets = link.client.socket.toList
  timers : link.client.timers = [] ∨ ∃ timer, link.client.timers = [timer] ∧
    link.client.reconnectTimer = some timer.id ∧ link.client.socket = none
  unmounted : link.unmounted = true →
    link.client.sockets = [] ∧ link.client.timers = []
  backoff : minBackoffMs ≤ link.client.backoffMs ∧
    link.client.backoffMs ≤ maxBackoffMs

variable {link next : Link M} {label : LinkLabel M} {capacity : Nat}

theorem double_in_range {backoffMs : Nat}
    (hrange : minBackoffMs ≤ backoffMs ∧ backoffMs ≤ maxBackoffMs) :
    minBackoffMs ≤ min (backoffMs * 2) maxBackoffMs ∧
      min (backoffMs * 2) maxBackoffMs ≤ maxBackoffMs := by
  rw [minBackoffMs, maxBackoffMs] at *
  omega

/-- The effect has neither a socket nor a timer and is not cancelled. -/
structure Client.Bare (client : Client) : Prop where
  cancelled : client.cancelled = false
  socket : client.socket = none
  sockets : client.sockets = []
  timers : client.timers = []
  backoff : minBackoffMs ≤ client.backoffMs ∧ client.backoffMs ≤ maxBackoffMs

theorem Client.scheduleReconnect_eq {client : Client}
    (hcancelled : client.cancelled = false) :
    client.scheduleReconnect = { client with
      status := .reconnecting
      reconnectTimer := some client.fresh
      timers := client.timers ++ [⟨client.fresh, client.backoffMs⟩]
      fresh := client.fresh + 1 } :=
  if_neg (by simp [hcancelled])

theorem Client.connect_eq {client : Client}
    (hcancelled : client.cancelled = false) (constructed : Bool) :
    client.connect constructed =
      if constructed then
        { client with
          status := .connecting
          socket := some client.fresh
          sockets := client.sockets ++ [client.fresh]
          fresh := client.fresh + 1 }
      else Client.scheduleReconnect { client with status := .connecting } :=
  if_neg (by simp [hcancelled])

theorem Client.onclose_eq {client : Client}
    (hcancelled : client.cancelled = false) (code : Nat) :
    client.onclose code =
      if code = unauthorizedCloseCode then
        { client with socket := none, status := .closed }
      else Client.scheduleReconnect { client with socket := none } :=
  if_neg (by simp [hcancelled])

theorem Client.Bare.scheduleReconnect {client : Client} (hbare : client.Bare)
    {server : Option (Delivery M)} :
    Named ⟨client.scheduleReconnect, server, false⟩ ∧
      NeverStuck ⟨client.scheduleReconnect, server, false⟩ := by
  obtain ⟨hcancelled, hsocket, hsockets, htimers, hbackoff⟩ := hbare
  rw [Client.scheduleReconnect_eq hcancelled]
  constructor
  · refine ⟨hcancelled, ?_, Or.inr ⟨⟨client.fresh, client.backoffMs⟩, ?_, rfl,
      hsocket⟩, by simp, hbackoff⟩
    · simp [hsocket, hsockets]
    · simp [htimers]
  · refine ⟨fun _ => Or.inr ⟨⟨client.fresh, client.backoffMs⟩, hsockets, ?_⟩,
      by simp, hbackoff⟩
    simp [htimers]

theorem Client.Bare.connect {client : Client} (hbare : client.Bare)
    (constructed : Bool) {server : Option (Delivery M)} :
    Named ⟨client.connect constructed, server, false⟩ ∧
      NeverStuck ⟨client.connect constructed, server, false⟩ := by
  cases constructed with
  | true =>
      obtain ⟨hcancelled, hsocket, hsockets, htimers, hbackoff⟩ := hbare
      rw [Client.connect_eq hcancelled, if_pos rfl]
      constructor
      · refine ⟨hcancelled, ?_, Or.inl htimers, by simp, hbackoff⟩
        simp [hsockets]
      · refine ⟨fun _ => Or.inl ⟨client.fresh, ?_, htimers⟩, by simp, hbackoff⟩
        simp [hsockets]
  | false =>
      have hconnecting : Client.Bare { client with status := .connecting } :=
        ⟨hbare.cancelled, hbare.socket, hbare.sockets, hbare.timers,
          hbare.backoff⟩
      rw [Client.connect_eq hbare.cancelled, if_neg Bool.false_ne_true]
      exact hconnecting.scheduleReconnect

/-- A socket of a named link is its only one, and there is no timer beside
it. -/
theorem Named.of_mem_sockets (hnamed : Named link) {socket : Nat}
    (hmem : socket ∈ link.client.sockets) :
    link.unmounted = false ∧ link.client.sockets = [socket] ∧
      link.client.timers = [] := by
  have hmounted : link.unmounted = false := by
    by_contra hunmounted
    have hnone := (hnamed.unmounted (by simpa using hunmounted)).1
    rw [hnone] at hmem
    cases hmem
  rw [hnamed.sockets, Option.mem_toList] at hmem
  refine ⟨hmounted, by rw [hnamed.sockets, hmem, Option.toList_some], ?_⟩
  rcases hnamed.timers with htimers | ⟨timer, -, -, hsocket⟩
  · exact htimers
  · rw [hsocket] at hmem
    cases hmem

/-- So is a timer. -/
theorem Named.of_mem_timers (hnamed : Named link) {id : Nat}
    (hmem : id ∈ link.client.timers.map Timer.id) :
    link.unmounted = false ∧ link.client.socket = none ∧
      ∃ timer, link.client.timers = [timer] ∧ timer.id = id := by
  have hmounted : link.unmounted = false := by
    by_contra hunmounted
    have hnone := (hnamed.unmounted (by simpa using hunmounted)).2
    rw [hnone] at hmem
    cases hmem
  rcases hnamed.timers with htimers | ⟨timer, htimers, -, hsocket⟩
  · rw [htimers] at hmem
    cases hmem
  · rw [htimers] at hmem
    exact ⟨hmounted, hsocket, timer, htimers, (List.mem_singleton.mp hmem).symm⟩

/-- The server's side does not matter to the effect. -/
theorem Named.of_server (hnamed : Named link) (server : Option (Delivery M)) :
    Named { link with server := server } :=
  ⟨hnamed.cancelled, hnamed.sockets, hnamed.timers, hnamed.unmounted,
    hnamed.backoff⟩

theorem NeverStuck.of_server (hnever : NeverStuck link)
    (server : Option (Delivery M)) :
    NeverStuck { link with server := server } :=
  ⟨hnever.mounted, hnever.unmounted, hnever.backoff⟩

theorem Named.onclose (hnamed : Named link) {socket code : Nat}
    (hmem : socket ∈ link.client.sockets) :
    Named (link.reportClose socket code) ∧
      (NeverStuck (link.reportClose socket code) ↔
        code ≠ unauthorizedCloseCode) := by
  obtain ⟨hmounted, hsockets, htimers⟩ := hnamed.of_mem_sockets hmem
  have hcancelled : link.client.cancelled = false :=
    hnamed.cancelled.trans hmounted
  have hlost : (link.client.lose socket).sockets = [] := by
    simp [Client.lose, hsockets]
  have hbare : Client.Bare { link.client.lose socket with socket := none } :=
    ⟨hcancelled, rfl, hlost, htimers, hnamed.backoff⟩
  have hopen : (link.client.lose socket).cancelled = false := hcancelled
  rw [Link.reportClose]
  rw [Client.onclose_eq hopen, hmounted]
  split
  next hcode =>
    refine ⟨⟨hcancelled, hlost, Or.inl htimers, by simp, hnamed.backoff⟩, ?_⟩
    refine iff_of_false (fun hnever => ?_) (fun hne => hne hcode)
    rcases hnever.mounted rfl with ⟨other, hother, -⟩ | ⟨timer, -, htimer⟩
    · cases hlost.symm.trans hother
    · cases htimers.symm.trans htimer
  next hcode =>
    obtain ⟨hnext, hnever⟩ := hbare.scheduleReconnect
    exact ⟨hnext, iff_of_true hnever hcode⟩

theorem Named.timeout (hnamed : Named link) {id : Nat} (constructed : Bool)
    (hmem : id ∈ link.client.timers.map Timer.id) :
    Named (link.fire id constructed) ∧
    NeverStuck (link.fire id constructed) := by
  obtain ⟨hmounted, hsocket, timer, htimers, hid⟩ := hnamed.of_mem_timers hmem
  have hsockets := hnamed.sockets
  rw [hsocket, Option.toList_none] at hsockets
  have hfired : (link.client.expire id).timers = [] := by
    simp [Client.expire, htimers, hid]
  have hbare : Client.Bare { link.client.expire id with
      backoffMs := min (link.client.backoffMs * 2) maxBackoffMs } :=
    ⟨hnamed.cancelled.trans hmounted, hsocket, hsockets, hfired,
      double_in_range hnamed.backoff⟩
  rw [Link.fire]
  rw [hmounted]
  exact hbare.connect constructed

/-- The cleanup clears the one timer and lets go of the one socket. -/
theorem Named.unmount (hnamed : Named link) :
    Named { link with client := link.client.unmount, unmounted := true } ∧
      NeverStuck
        { link with client := link.client.unmount, unmounted := true } := by
  have hsockets : (link.client.unmount).sockets = [] := by
    rw [Client.unmount, Client.cleanup]
    simp only [hnamed.sockets]
    cases link.client.socket <;> simp
  have htimers : (link.client.unmount).timers = [] := by
    rw [Client.unmount, Client.cleanup]
    rcases hnamed.timers with hnone | ⟨timer, hone, htimer, -⟩
    · simp [hnone]
    · simp [hone, htimer]
  refine ⟨⟨rfl, ?_, Or.inl htimers, fun _ => ⟨hsockets, htimers⟩,
    hnamed.backoff⟩, by simp, fun _ => ⟨hsockets, htimers⟩, hnamed.backoff⟩
  rw [hsockets]
  rfl

/-- Every step keeps the names, and a step from a link that is not stuck leaves
one that is not stuck unless it reports a refusal. -/
theorem Named.step (hnamed : Named link)
    (hstep : link.step capacity label = some next) :
    Named next ∧ (NeverStuck link → (NeverStuck next ↔ Authorized label)) := by
  cases label with
  | accept =>
      simp only [Link.step] at hstep
      split at hstep <;> cases hstep
      exact ⟨hnamed.of_server _,
        fun hnever => iff_of_true (hnever.of_server _) trivial⟩
  | server label =>
      obtain ⟨server, -, hserver⟩ := Option.bind_eq_some_iff.mp hstep
      obtain ⟨after, -, rfl⟩ := Option.map_eq_some_iff.mp hserver
      exact ⟨hnamed.of_server _,
        fun hnever => iff_of_true (hnever.of_server _) trivial⟩
  | opened socket =>
      simp only [Link.step] at hstep
      split at hstep <;> cases hstep
      next hopen =>
        have hbounds : minBackoffMs ≤ minBackoffMs ∧
            minBackoffMs ≤ maxBackoffMs := by decide
        obtain ⟨hmounted, -, -⟩ := hnamed.of_mem_sockets hopen.1
        have hopened : link.client.onopen = { link.client with
            backoffMs := minBackoffMs, status := .opened } :=
          if_neg (by simp [hnamed.cancelled, hmounted])
        rw [hopened]
        refine ⟨⟨hnamed.cancelled, hnamed.sockets, hnamed.timers,
          hnamed.unmounted, hbounds⟩, fun hnever => iff_of_true ?_ trivial⟩
        exact ⟨hnever.mounted, hnever.unmounted, hbounds⟩
  | message socket raw | error socket =>
      simp only [Link.step] at hstep
      split at hstep <;> cases hstep
      exact ⟨hnamed, fun hnever => iff_of_true hnever trivial⟩
  | closed socket code =>
      simp only [Link.step] at hstep
      split at hstep <;> cases hstep
      next hclosed =>
        obtain ⟨hnext, hexact⟩ := hnamed.onclose hclosed.1
        exact ⟨hnext, fun _ => hexact⟩
  | timeout timer constructed =>
      simp only [Link.step] at hstep
      split at hstep <;> cases hstep
      next hpending =>
        obtain ⟨hnext, hnever⟩ := hnamed.timeout constructed hpending
        exact ⟨hnext, fun _ => iff_of_true hnever trivial⟩
  | unmount =>
      simp only [Link.step] at hstep
      split at hstep <;> cases hstep
      obtain ⟨hnext, hnever⟩ := hnamed.unmount
      exact ⟨hnext, fun _ => iff_of_true hnever trivial⟩

theorem mount_named (M : Type u) (constructed : Bool) :
    Named (Link.mount M constructed) ∧
    NeverStuck (Link.mount M constructed) := by
  have hbare : Client.effect.Bare := ⟨rfl, rfl, rfl, rfl, by decide⟩
  exact hbare.connect constructed

/-- From its mount on, and over any order of events, the effect is never stuck
exactly as long as no close that it is told of has the code of a refusal. -/
theorem client_never_stuck_iff (M : Type u) (capacity : Nat)
    (constructed : Bool) (labels : List (LinkLabel M)) :
    NeverStuck (Link.mount M constructed) ∧
      ((links M capacity).Along (fun _ _ next => NeverStuck next)
          (Link.mount M constructed) labels ↔
        (links M capacity).Along (fun _ label _ => Authorized label)
          (Link.mount M constructed) labels) := by
  obtain ⟨hnamed, hnever⟩ := mount_named M constructed
  refine ⟨hnever, ?_⟩
  refine Transition.System.along_iff_of_exact (I := Named) ?_ ?_ hnamed hnever
  · intro link label next hlink hstep
    exact (hlink.step hstep).1
  · intro link label next hlink hstuck hstep
    exact (hlink.step hstep).2 hstuck

/-- Only a full write buffer brings that code about. -/
theorem closes_unauthorized_iff :
    link.closes unauthorizedCloseCode = true ↔
      ∃ server, link.server = some server ∧
        server.session.conn.ws = some .writeBufferFull := by
  have hcode : ∀ reason : CloseReason, reason.code = unauthorizedCloseCode ↔
      reason = .writeBufferFull := by
    intro reason
    cases reason <;> decide
  have habnormal : unauthorizedCloseCode ≠ abnormalClosure := by decide
  rw [Link.closes]
  simp only [habnormal, decide_false, Bool.false_or, Option.any_eq_true,
    Option.bind_eq_some_iff, decide_eq_true_eq, hcode]
  constructor
  · rintro ⟨reason, ⟨server, hserver, hws⟩, rfl⟩
    exact ⟨server, hserver, hws⟩
  · rintro ⟨server, hserver, hws⟩
    exact ⟨_, ⟨server, hserver, hws⟩, rfl⟩

/-- A client that reads nothing while messages come in: the server closes the
connection with the code that the client takes for a refusal. -/
def slowRun : List (LinkLabel Nat) :=
  [.accept, .opened 0] ++
    (List.range defaultWriteBuffer).map (fun n => .server (.send n .queued)) ++
    [.server (.send 64 .full), .server .senderCloses, .server .senderCloses,
      .closed 0 1008]

theorem client_stuck_after_full_buffer :
    ∃ link, (links Nat defaultWriteBuffer).run (Link.mount Nat true) slowRun =
        some link ∧
      link.unmounted = false ∧ link.client.status = .closed ∧
      ¬ NeverStuck link := by
  refine ⟨_, rfl, rfl, rfl, fun hnever => ?_⟩
  rcases hnever.mounted rfl with ⟨socket, hsocket, -⟩ | ⟨timer, -, htimer⟩
  · cases hsocket
  · cases htimer

end Links

end Realtime

end LinkFlow
