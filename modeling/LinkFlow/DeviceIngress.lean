/-
The broker at work beside the registry: the webhook lets clients in, the access
rules let them publish and subscribe, the rule engine writes events, and what is
sent goes to the sessions subscribed to it.
-/
import LinkFlow.Lib.Transition
import LinkFlow.MQTTSoundness
import LinkFlow.RuleEngine

namespace LinkFlow

namespace Broker

open Registry TopicPath
open DeviceService hiding Surroundings

section Machine

/-- What a client id is subscribed to, and the client connected under it. -/
structure Session where
  clientID : String
  filters : List String
  client : Option ClientInfo
deriving Repr, DecidableEq

/-- `events` and `deliveries` name the client an event comes from and the client
a message goes to.  Both have the oldest first. -/
structure State where
  db : Database
  sessions : List Session
  events : List (ClientInfo × KafkaRecord)
  deliveries : List (ClientInfo × String)

inductive Label where
  | registry (request : Request)
  | connect (request : EMQXAuthRequest) (peerHost : String) (cleanStart : Bool)
      (out : Surroundings) (keepalive : Int) (stamp : Stamp)
  | subscribe (clientID filter : String)
  | publish (clientID topic : String) (payload : Option Json)
      (stamp : Nat → Stamp)
  | send (topic : String)
  | disconnect (clientID reason : String) (stamp : Stamp)

/-- The body that the authenticator is configured with. -/
def webhookRequest (request : EMQXAuthRequest) : HTTPRequest where
  contentType := "application/json"
  body := some (.obj [("username", .str request.username),
    ("password", .str request.password), ("clientid", .str request.clientID)])
  extra := false

/-- The client that an answer lets in. -/
def grant (request : EMQXAuthRequest) (peerHost : String) :
    EMQXAnswer → Option ClientInfo
  | .internalError => none
  | .response body =>
      if body.result = "allow" then
        some
          { username := request.username
            peerHost := peerHost
            isSuperuser := body.isSuperuser
            clientAttrs := body.clientAttrs }
      else none

def State.session? (state : State) (clientID : String) : Option Session :=
  state.sessions.find? fun session => session.clientID = clientID

/-- The client connected under this id. -/
def State.client? (state : State) (clientID : String) : Option ClientInfo :=
  (state.session? clientID).bind Session.client

def State.setSession (state : State) (session : Session) : State :=
  { state with
    sessions := session ::
      state.sessions.filter fun other => other.clientID ≠ session.clientID }

def State.record (state : State) (client : ClientInfo)
    (records : List KafkaRecord) : State :=
  { state with
    events := state.events ++ records.map fun record => (client, record) }

/-- The connected clients that are subscribed to the topic. -/
def State.receivers (state : State) (topic : String) : List ClientInfo :=
  (state.sessions.filter fun session =>
    session.filters.any (matchesTopic · topic)).filterMap Session.client

def State.deliver (state : State) (topic : String) : State :=
  { state with
    deliveries := state.deliveries ++
      (state.receivers topic).map fun client => (client, topic) }

variable (handler : EMQXAuthHandler) (engine : Engine)

/-- A client that is not let in, or not allowed to publish or to subscribe, does
nothing.  A connection under an id that has one is taken once that one is
closed; without a clean start it goes on with what the id was subscribed to. -/
def step (state : State) : Label → Option State
  | .registry request =>
      some { state with
        db := serve handler.casing handler.bcrypt state.db request }
  | .connect request peerHost cleanStart out keepalive stamp =>
      match state.client? request.clientID,
          grant request peerHost
            (handler.authenticate out (webhookRequest request) state.db) with
      | none, some client =>
          let kept := if cleanStart then [] else
            ((state.session? request.clientID).map Session.filters).getD []
          some ((state.setSession ⟨request.clientID, kept, some client⟩).record
            client (engine.connected keepalive client stamp).toList)
      | _, _ => none
  | .subscribe clientID filter =>
      match state.session? clientID with
      | some ⟨_, filters, some client⟩ =>
          if authorize client .subscribe filter then
            some (state.setSession ⟨clientID, filter :: filters, some client⟩)
          else none
      | _ => none
  | .publish clientID topic payload stamp =>
      match state.client? clientID with
      | some client =>
          if authorize client .publish topic then
            some ((state.deliver topic).record client
              (engine.onMessage ⟨topic, payload, client⟩ stamp))
          else none
      | none => none
  | .send topic => some (state.deliver topic)
  | .disconnect clientID reason stamp =>
      match state.session? clientID with
      | some ⟨_, filters, some client⟩ =>
          some ((state.setSession ⟨clientID, filters, none⟩).record client
            (engine.disconnected reason client stamp).toList)
      | _ => none

/-- The broker starts with no sessions, the registry with no rows. -/
def system : Transition.System State Label where
  init state := (Registry.system handler.casing handler.bcrypt).init state.db ∧
    state.sessions = [] ∧ state.events = [] ∧ state.deliveries = []
  step := step handler engine

end Machine

section Admission

variable {handler : EMQXAuthHandler} {db : Database} {client : ClientInfo}
  {tenant : Tenant} {product : Product} {device : Device}

/-- The fields of a device. -/
def fieldsOf (tenant : Tenant) (product : Product) (device : Device) :
    DeviceFields where
  tenantID := Uuid.text tenant.id
  productID := Uuid.text product.id
  deviceID := Uuid.text device.id
  tenantSlug := tenant.tenantSlug
  productKey := product.productKey
  deviceSlug := device.deviceSlug

/-- The texts a device is reached by. -/
def addressOf (tenant : Tenant) (product : Product) (device : Device) :
    DeviceAddress where
  tenantSlug := tenant.tenantSlug
  productKey := product.productKey
  deviceSlug := device.deviceSlug
  tenantSlug_valid := tenant.slugFormat
  productKey_valid := product.keyFormat
  deviceSlug_valid := device.slugFormat

/-- The client was let in as this device of the registry. -/
structure AdmittedAs (handler : EMQXAuthHandler) (db : Database)
    (client : ClientInfo) (tenant : Tenant) (product : Product)
    (device : Device) : Prop where
  tenantMem : tenant ∈ db.tenants
  productMem : product ∈ db.products
  deviceMem : device ∈ db.devices
  deviceTenant : device.tenantID = tenant.id
  deviceProduct : device.productID = product.id
  admitted : ∃ password,
    Admitted handler.bcrypt db tenant product device password
  has : client.Has (fieldsOf tenant product device)

theorem AdmittedAs.carries
    (hadmitted : AdmittedAs handler db client tenant product device) :
    client.Carries (addressOf tenant product device) :=
  ⟨hadmitted.has.tenantSlug, hadmitted.has.productKey, hadmitted.has.deviceSlug⟩

/-- A client that is no superuser has been looked up and checked. -/
theorem grant_device {request : EMQXAuthRequest} {peerHost : String}
    {out : Surroundings} {http : HTTPRequest}
    (hgrant : grant request peerHost (handler.authenticate out http db) =
      some client) (hdevice : client.isSuperuser = false) :
    ∃ tenant product device,
      AdmittedAs handler db client tenant product device := by
  rw [EMQXAuthHandler.authenticate] at hgrant
  split at hgrant
  · exact absurd hgrant (by simp [grant, denyResponse])
  · rw [EMQXAuthHandler.answer] at hgrant
    split at hgrant
    · simp only [grant, if_pos, Option.some.injEq] at hgrant
      rw [← hgrant] at hdevice
      cases hdevice
    · split at hgrant
      · exact absurd hgrant (by simp [grant, denyResponse])
      · split at hgrant
        next result hok =>
          obtain ⟨tenant, product, device, hjoined, hadmitted, rfl⟩ :=
            mqttAuthenticate_sound hok
          simp only [grant, allowResponse, if_pos, Option.some.injEq] at hgrant
          refine ⟨tenant, product, device, hjoined.tenantMem,
            hjoined.productMem, hjoined.deviceMem, hjoined.deviceTenant,
            hjoined.deviceProduct, ⟨_, hadmitted⟩, ?_⟩
          rw [← hgrant]
          constructor <;> rfl
        · exact absurd hgrant (by simp [grant, denyResponse])
        · exact absurd hgrant (by simp [grant, denyResponse])
        · cases hgrant

end Admission

section Steps

variable {handler : EMQXAuthHandler} {engine : Engine} {state next : State}
  {label : Label}

def State.Connected (state : State) (client : ClientInfo) : Prop :=
  ∃ session ∈ state.sessions, session.client = some client

/-- A connected client is subscribed to this filter. -/
def State.Holds (state : State) (client : ClientInfo) (filter : String) :
    Prop :=
  ∃ session ∈ state.sessions, session.client = some client ∧
    filter ∈ session.filters

theorem session?_mem {clientID : String} {session : Session}
    (hsome : state.session? clientID = some session) :
    session ∈ state.sessions :=
  List.mem_of_find?_eq_some hsome

theorem client?_connected {clientID : String} {client : ClientInfo}
    (hsome : state.client? clientID = some client) :
    state.Connected client := by
  rw [State.client?] at hsome
  rw [Option.bind_eq_some_iff] at hsome
  obtain ⟨session, hsession, hclient⟩ := hsome
  exact ⟨session, session?_mem hsession, hclient⟩

theorem mem_setSession {session other : Session}
    (hmem : other ∈ (state.setSession session).sessions) :
    other = session ∨ other ∈ state.sessions := by
  simp only [State.setSession, List.mem_cons, List.mem_filter] at hmem
  rcases hmem with heq | ⟨hold, -⟩
  · exact Or.inl heq
  · exact Or.inr hold

theorem mem_record {client : ClientInfo} {records : List KafkaRecord}
    {entry : ClientInfo × KafkaRecord}
    (hmem : entry ∈ (state.record client records).events) :
    entry ∈ state.events ∨ entry.1 = client ∧ entry.2 ∈ records := by
  simp only [State.record, List.mem_append, List.mem_map] at hmem
  rcases hmem with hold | ⟨record, hrecord, rfl⟩
  · exact Or.inl hold
  · exact Or.inr ⟨rfl, hrecord⟩

theorem mem_receivers {topic : String} {client : ClientInfo}
    (hmem : client ∈ state.receivers topic) :
    ∃ filter, state.Holds client filter ∧ matchesTopic filter topic = true := by
  simp only [State.receivers, List.mem_filterMap, List.mem_filter,
    List.any_eq_true] at hmem
  obtain ⟨session, ⟨hsession, filter, hfilter, hmatches⟩, hclient⟩ := hmem
  exact ⟨filter, ⟨session, hsession, hclient, hfilter⟩, hmatches⟩

theorem mem_deliver {topic : String} {entry : ClientInfo × String}
    (hmem : entry ∈ (state.deliver topic).deliveries) :
    entry ∈ state.deliveries ∨ ∃ filter, state.Holds entry.1 filter ∧
      matchesTopic filter entry.2 = true := by
  simp only [State.deliver, List.mem_append, List.mem_map] at hmem
  rcases hmem with hold | ⟨client, hclient, rfl⟩
  · exact Or.inl hold
  · exact Or.inr (mem_receivers hclient)

/-- What a step can do, by its label. -/
inductive Does (handler : EMQXAuthHandler) (engine : Engine) (state : State) :
    Label → State → Prop
  | registry (request : Request) :
      Does handler engine state (.registry request)
        { state with
          db := serve handler.casing handler.bcrypt state.db request }
  | connect {request : EMQXAuthRequest} {peerHost : String} {cleanStart : Bool}
      {out : Surroundings} {keepalive : Int} {stamp : Stamp}
      {client : ClientInfo} {kept : List String}
      (hgrant : grant request peerHost
        (handler.authenticate out (webhookRequest request) state.db) =
          some client)
      (hclean : cleanStart = true → kept = []) :
      Does handler engine state
        (.connect request peerHost cleanStart out keepalive stamp)
        ((state.setSession ⟨request.clientID, kept, some client⟩).record client
          (engine.connected keepalive client stamp).toList)
  | subscribe {clientID filter : String} {filters : List String}
      {client : ClientInfo}
      (hsession : ⟨clientID, filters, some client⟩ ∈ state.sessions)
      (hallowed : authorize client .subscribe filter = true) :
      Does handler engine state (.subscribe clientID filter)
        (state.setSession ⟨clientID, filter :: filters, some client⟩)
  | publish {clientID topic : String} {payload : Option Json}
      {stamp : Nat → Stamp} {client : ClientInfo}
      (hclient : state.client? clientID = some client)
      (hallowed : authorize client .publish topic = true) :
      Does handler engine state (.publish clientID topic payload stamp)
        ((state.deliver topic).record client
          (engine.onMessage ⟨topic, payload, client⟩ stamp))
  | send (topic : String) :
      Does handler engine state (.send topic) (state.deliver topic)
  | disconnect {clientID reason : String} {stamp : Stamp}
      {filters : List String} {client : ClientInfo}
      (hclient : state.Connected client) :
      Does handler engine state (.disconnect clientID reason stamp)
        ((state.setSession ⟨clientID, filters, none⟩).record client
          (engine.disconnected reason client stamp).toList)

theorem session?_clientID {clientID other : String} {filters : List String}
    {client : Option ClientInfo}
    (hsome : state.session? clientID = some ⟨other, filters, client⟩) :
    other = clientID := by
  have hfound := List.find?_some hsome
  simpa using hfound

theorem does_of_step (hstep : (system handler engine).step state label =
    some next) : Does handler engine state label next := by
  change step handler engine state label = some next at hstep
  cases label with
  | registry request =>
      cases hstep
      exact .registry request
  | connect request peerHost cleanStart out keepalive stamp =>
      simp only [step] at hstep
      split at hstep
      next client _ hgrant =>
        cases hstep
        refine .connect hgrant fun hclean => ?_
        rw [hclean, if_pos rfl]
      · cases hstep
  | subscribe clientID filter =>
      simp only [step] at hstep
      split at hstep
      next other filters client hsession =>
        split at hstep
        next hallowed =>
          cases hstep
          have hmem := session?_mem hsession
          rw [session?_clientID hsession] at hmem
          exact .subscribe hmem hallowed
        · cases hstep
      · cases hstep
  | publish clientID topic payload stamp =>
      simp only [step] at hstep
      split at hstep
      next client hclient =>
        split at hstep
        next hallowed =>
          cases hstep
          exact .publish hclient hallowed
        · cases hstep
      · cases hstep
  | send topic =>
      cases hstep
      exact .send topic
  | disconnect clientID reason stamp =>
      simp only [step] at hstep
      split at hstep
      next other filters client hsession =>
        cases hstep
        exact .disconnect ⟨_, session?_mem hsession, rfl⟩
      · cases hstep

/-- A rule wrote this record about the client. -/
inductive Produced (engine : Engine) (client : ClientInfo) :
    KafkaRecord → Prop
  | message {topic : String} {payload : Option Json} {stamp : Nat → Stamp}
      {record : KafkaRecord} (hallowed : authorize client .publish topic = true)
      (hmem : record ∈ engine.onMessage ⟨topic, payload, client⟩ stamp) :
      Produced engine client record
  | connected {keepalive : Int} {stamp : Stamp} {record : KafkaRecord}
      (hsome : engine.connected keepalive client stamp = some record) :
      Produced engine client record
  | disconnected {reason : String} {stamp : Stamp} {record : KafkaRecord}
      (hsome : engine.disconnected reason client stamp = some record) :
      Produced engine client record

/-- The webhook lets the client in at this moment. -/
def Enters (handler : EMQXAuthHandler) (state : State) (client : ClientInfo) :
    Prop :=
  ∃ request peerHost out, grant request peerHost
    (handler.authenticate out (webhookRequest request) state.db) = some client

theorem Does.connected (hdoes : Does handler engine state label next)
    {client : ClientInfo} (hconnected : next.Connected client) :
    state.Connected client ∨ Enters handler state client := by
  obtain ⟨session, hsession, hclient⟩ := hconnected
  cases hdoes with
  | registry request => exact Or.inl ⟨session, hsession, hclient⟩
  | connect hgrant _ =>
      rcases mem_setSession hsession with rfl | hold
      · cases hclient
        exact Or.inr ⟨_, _, _, hgrant⟩
      · exact Or.inl ⟨session, hold, hclient⟩
  | subscribe hmem _ =>
      rcases mem_setSession hsession with rfl | hold
      · exact Or.inl ⟨_, hmem, hclient⟩
      · exact Or.inl ⟨session, hold, hclient⟩
  | publish _ _ => exact Or.inl ⟨session, hsession, hclient⟩
  | send topic => exact Or.inl ⟨session, hsession, hclient⟩
  | disconnect _ =>
      rcases mem_setSession hsession with rfl | hold
      · cases hclient
      · exact Or.inl ⟨session, hold, hclient⟩

theorem Does.events_kept (hdoes : Does handler engine state label next)
    {entry : ClientInfo × KafkaRecord} (hmem : entry ∈ state.events) :
    entry ∈ next.events := by
  cases hdoes with
  | registry request => exact hmem
  | connect _ _ => exact List.mem_append_left _ hmem
  | subscribe _ _ => exact hmem
  | publish _ _ => exact List.mem_append_left _ hmem
  | send topic => exact hmem
  | disconnect _ => exact List.mem_append_left _ hmem

theorem Does.events (hdoes : Does handler engine state label next)
    {entry : ClientInfo × KafkaRecord} (hmem : entry ∈ next.events) :
    entry ∈ state.events ∨
      (state.Connected entry.1 ∨ Enters handler state entry.1) ∧
        Produced engine entry.1 entry.2 := by
  cases hdoes with
  | registry request => exact Or.inl hmem
  | connect hgrant _ =>
      rcases mem_record hmem with hold | ⟨hclient, hrecord⟩
      · exact Or.inl hold
      · rw [hclient]
        exact Or.inr ⟨Or.inr ⟨_, _, _, hgrant⟩,
          .connected (Option.mem_toList.mp hrecord)⟩
  | subscribe _ _ => exact Or.inl hmem
  | publish hsome hallowed =>
      rcases mem_record hmem with hold | ⟨hclient, hrecord⟩
      · exact Or.inl hold
      · rw [hclient]
        exact Or.inr ⟨Or.inl (client?_connected hsome),
          .message hallowed hrecord⟩
  | send topic => exact Or.inl hmem
  | disconnect hconnected =>
      rcases mem_record hmem with hold | ⟨hclient, hrecord⟩
      · exact Or.inl hold
      · rw [hclient]
        exact Or.inr ⟨Or.inl hconnected,
          .disconnected (Option.mem_toList.mp hrecord)⟩

theorem Does.deliveries (hdoes : Does handler engine state label next)
    {entry : ClientInfo × String} (hmem : entry ∈ next.deliveries) :
    entry ∈ state.deliveries ∨ ∃ filter, state.Holds entry.1 filter ∧
      matchesTopic filter entry.2 = true := by
  cases hdoes with
  | registry request => exact Or.inl hmem
  | connect _ _ => exact Or.inl hmem
  | subscribe _ _ => exact Or.inl hmem
  | publish _ _ => exact mem_deliver hmem
  | send topic => exact mem_deliver hmem
  | disconnect _ => exact Or.inl hmem

/-- The clients of this label begin with an empty session. -/
def CleanStart : Label → Prop
  | .connect _ _ cleanStart _ _ _ => cleanStart = true
  | _ => True

/-- With clean starts a client holds what it was allowed to subscribe to. -/
theorem Does.holds (hdoes : Does handler engine state label next)
    (hclean : CleanStart label) {client : ClientInfo} {filter : String}
    (hholds : next.Holds client filter) :
    state.Holds client filter ∨ authorize client .subscribe filter = true := by
  obtain ⟨session, hsession, hclient, hfilter⟩ := hholds
  cases hdoes with
  | registry request => exact Or.inl ⟨session, hsession, hclient, hfilter⟩
  | connect _ hkept =>
      rcases mem_setSession hsession with rfl | hold
      · simp only [hkept hclean] at hfilter
        cases hfilter
      · exact Or.inl ⟨session, hold, hclient, hfilter⟩
  | subscribe hmem hallowed =>
      rcases mem_setSession hsession with rfl | hold
      · cases hclient
        rcases List.mem_cons.mp hfilter with rfl | hkept
        · exact Or.inr hallowed
        · exact Or.inl ⟨_, hmem, rfl, hkept⟩
      · exact Or.inl ⟨session, hold, hclient, hfilter⟩
  | publish _ _ => exact Or.inl ⟨session, hsession, hclient, hfilter⟩
  | send topic => exact Or.inl ⟨session, hsession, hclient, hfilter⟩
  | disconnect _ =>
      rcases mem_setSession hsession with rfl | hold
      · cases hclient
      · exact Or.inl ⟨session, hold, hclient, hfilter⟩

end Steps

section Runs

variable {handler : EMQXAuthHandler} {engine : Engine} {state next : State}
  {label : Label} {client : ClientInfo}

/-- Earlier in this run the client was let in as a device the registry had then,
and `claim` holds of that device. -/
def CameIn (handler : EMQXAuthHandler) (engine : Engine) (state : State)
    (client : ClientInfo) (claim : Tenant → Product → Device → Prop) : Prop :=
  (system handler engine).Earlier state fun before =>
    ∃ tenant product device,
      AdmittedAs handler before.db client tenant product device ∧
        claim tenant product device

theorem CameIn.later {claim : Tenant → Product → Device → Prop}
    (hcame : CameIn handler engine state client claim)
    (hstep : (system handler engine).step state label = some next) :
    CameIn handler engine next client claim :=
  Transition.System.Earlier.next hcame hstep

theorem CameIn.imp {first second : Tenant → Product → Device → Prop}
    (hcame : CameIn handler engine state client first)
    (himp : ∀ db tenant product device,
      AdmittedAs handler db client tenant product device →
        first tenant product device → second tenant product device) :
    CameIn handler engine state client second := by
  refine Transition.System.Earlier.imp ?_ hcame
  rintro before ⟨tenant, product, device, hadmitted, hfirst⟩
  exact ⟨tenant, product, device, hadmitted, himp _ _ _ _ hadmitted hfirst⟩

/-- A client that is let in now came in. -/
theorem Enters.cameIn (hreach : (system handler engine).Reachable state)
    (henters : Enters handler state client)
    (hdevice : client.isSuperuser = false) :
    CameIn handler engine state client fun _ _ _ => True := by
  obtain ⟨request, peerHost, out, hgrant⟩ := henters
  obtain ⟨tenant, product, device, hadmitted⟩ := grant_device hgrant hdevice
  exact .now hreach ⟨tenant, product, device, hadmitted, trivial⟩

/-- What a rule wrote about a client, it has selected. -/
theorem Produced.selected {record : KafkaRecord}
    (hproduced : Produced engine client record) :
    (∃ topic, authorize client .publish topic = true ∧
        Selected engine client (topicSlugs topic) record) ∨
      Selected engine client (clientSlugs client) record := by
  cases hproduced with
  | message hallowed hmem =>
      exact Or.inl ⟨_, hallowed, onMessage_selected hmem⟩
  | connected hsome =>
      exact Or.inr (connectionRule_selected (by decide)
        (by simp [Schemas.deviceRequired, Schemas.deviceMembers]) hsome)
  | disconnected hsome =>
      exact Or.inr (connectionRule_selected (by decide)
        (by simp [Schemas.deviceRequired, Schemas.deviceMembers]) hsome)

theorem Produced.uplink {record : KafkaRecord}
    (hproduced : Produced engine client record) : Uplink record := by
  rcases hproduced.selected with ⟨topic, -, hselected⟩ | hselected
  · exact hselected.uplink
  · exact hselected.uplink

/-- What a rule wrote about a device's client names the device. -/
theorem Produced.names {record : KafkaRecord}
    (hproduced : Produced engine client record)
    (hdevice : client.isSuperuser = false)
    (hremote : client.peerHost ≠ "127.0.0.1") {db : Database} {tenant : Tenant}
    {product : Product} {device : Device}
    (hadmitted : AdmittedAs handler db client tenant product device) :
    Names (fieldsOf tenant product device) record := by
  rcases hproduced.selected with ⟨topic, hallowed, hselected⟩ | hselected
  · have hown := (publish_authorized_iff hadmitted.carries hdevice hremote).mp
      hallowed
    apply hselected.names hadmitted.has
    rw [TopicSlugs.Are, topicSlugs_of_ownTopic hown]
    rfl
  · exact hselected.names hadmitted.has (clientSlugs_are hadmitted.has)

/-- Where everything in the state comes from. -/
structure Traced (handler : EMQXAuthHandler) (engine : Engine) (state : State) :
    Prop where
  reachable : (system handler engine).Reachable state
  connected : ∀ client, state.Connected client → client.isSuperuser = false →
    CameIn handler engine state client fun _ _ _ => True
  events : ∀ entry ∈ state.events, entry.1.isSuperuser = false →
    entry.1.peerHost ≠ "127.0.0.1" →
      CameIn handler engine state entry.1 fun tenant product device =>
        Names (fieldsOf tenant product device) entry.2
  deliveries : ∀ entry ∈ state.deliveries, entry.1.isSuperuser = false →
    CameIn handler engine state entry.1 fun _ _ _ => True

theorem Traced.step (htraced : Traced handler engine state)
    (hstep : (system handler engine).step state label = some next) :
    Traced handler engine next where
  reachable := htraced.reachable.next hstep
  connected := by
    intro client hconnected hdevice
    rcases (does_of_step hstep).connected hconnected with hold | henters
    · exact (htraced.connected client hold hdevice).later hstep
    · exact (henters.cameIn htraced.reachable hdevice).later hstep
  events := by
    intro entry hmem hdevice hremote
    rcases (does_of_step hstep).events hmem with hold | ⟨hcame, hproduced⟩
    · exact (htraced.events entry hold hdevice hremote).later hstep
    · have hcameIn : CameIn handler engine state entry.1 fun _ _ _ => True := by
        rcases hcame with hconnected | henters
        · exact htraced.connected entry.1 hconnected hdevice
        · exact henters.cameIn htraced.reachable hdevice
      exact (hcameIn.imp fun db tenant product device hadmitted _ =>
        hproduced.names hdevice hremote hadmitted).later hstep
  deliveries := by
    intro entry hmem hdevice
    rcases (does_of_step hstep).deliveries hmem with
      hold | ⟨filter, ⟨session, hsession, hclient, -⟩, -⟩
    · exact (htraced.deliveries entry hold hdevice).later hstep
    · exact (htraced.connected entry.1 ⟨session, hsession, hclient⟩
        hdevice).later hstep

theorem traced_of_reachable (hreach : (system handler engine).Reachable state) :
    Traced handler engine state := by
  apply hreach.invariant (P := Traced handler engine)
  · rintro start ⟨hdb, hsessions, hevents, hdeliveries⟩
    refine ⟨.start ⟨hdb, hsessions, hevents, hdeliveries⟩, ?_, ?_, ?_⟩
    · rintro client ⟨session, hmem, -⟩
      rw [hsessions] at hmem
      cases hmem
    · rw [hevents]
      simp
    · rw [hdeliveries]
      simp
  · exact fun state label next htraced hstep => htraced.step hstep

/-- A topic below the device's own, or one of the broker's. -/
def Below (address : DeviceAddress) (topic : String) : Prop :=
  (∃ rest, levels topic = address.path rest) ∨ SystemTopic topic

/-- A filter of the device takes only topics of the device. -/
theorem below_of_matches {address : DeviceAddress} {filter topic : String}
    (hfilter : OwnTopic address "down" filter ∨ SystemTopic filter)
    (hmatches : matchesTopic filter topic = true) : Below address topic := by
  simp only [matchesTopic, Bool.and_eq_true, matchesFilter] at hmatches
  obtain ⟨-, hmatches⟩ := hmatches
  rcases hfilter with ⟨kind, -, name, hlevels⟩ | ⟨rest, hlevels⟩
  · have hsplit : address.path [kind, "down", name] =
        address.path [] ++ [kind, "down", name] := rfl
    rw [hlevels, hsplit, matchesLevels_append
      (path_literal address (by simp))] at hmatches
    obtain ⟨below, htopic, -⟩ := hmatches
    exact Or.inl ⟨below, htopic⟩
  · rw [hlevels, matchesLevels_literal ⟨by decide, by decide⟩] at hmatches
    obtain ⟨below, htopic, -⟩ := hmatches
    exact Or.inr ⟨below, htopic⟩

/-- A topic under a device is below no other device. -/
theorem Below.unique {address other : DeviceAddress} {topic : String}
    {rest : List String} (hbelow : Below other topic)
    (hlevels : levels topic = address.path rest) : address = other := by
  rcases hbelow with ⟨below, hown⟩ | ⟨below, hsystem⟩
  · rw [hlevels] at hown
    simp only [DeviceAddress.path, List.cons_append, List.nil_append,
      List.cons.injEq, true_and] at hown
    exact DeviceAddress.ext hown.1 hown.2.1 hown.2.2.1
  · rw [hlevels] at hsystem
    simp only [DeviceAddress.path, List.cons_append, List.cons.injEq] at hsystem
    exact absurd hsystem.1 (by decide)

/-- What the sessions of devices hold, and what was delivered to devices. -/
structure Apart (state : State) : Prop where
  holds : ∀ client filter, state.Holds client filter →
    client.isSuperuser = false → client.peerHost ≠ "127.0.0.1" →
      ∀ address, client.Carries address →
        OwnTopic address "down" filter ∨ SystemTopic filter
  deliveries : ∀ entry ∈ state.deliveries, entry.1.isSuperuser = false →
    entry.1.peerHost ≠ "127.0.0.1" →
      ∀ address, entry.1.Carries address → Below address entry.2

theorem Apart.step (hapart : Apart state) (hclean : CleanStart label)
    (hdoes : Does handler engine state label next) : Apart next where
  holds := by
    intro client filter hholds hdevice hremote address hcarries
    rcases hdoes.holds hclean hholds with hold | hallowed
    · exact hapart.holds client filter hold hdevice hremote address hcarries
    · exact subscribe_authorized hcarries hdevice hremote hallowed
  deliveries := by
    intro entry hmem hdevice hremote address hcarries
    rcases hdoes.deliveries hmem with hold | ⟨filter, hholds, hmatches⟩
    · exact hapart.deliveries entry hold hdevice hremote address hcarries
    · exact below_of_matches
        (hapart.holds entry.1 filter hholds hdevice hremote address hcarries)
        hmatches

theorem apart_of_reachable
    (hreach : (system handler engine).ReachableVia
      (fun _ label => CleanStart label) state) : Apart state := by
  apply hreach.invariant (P := Apart)
  · rintro start ⟨-, hsessions, -, hdeliveries⟩
    refine ⟨?_, ?_⟩
    · rintro client filter ⟨session, hmem, -⟩
      rw [hsessions] at hmem
      cases hmem
    · rw [hdeliveries]
      simp
  · intro state label next hapart hclean hstep
    exact hapart.step hclean (does_of_step hstep)

/-- In every run, an event that comes from a client other than a superuser or
one on the broker's own host names, under its key, in its envelope and in its
payload, the device the client was let in as, whatever the client published. -/
theorem events_name_their_device
    (hreach : (system handler engine).Reachable state)
    {record : KafkaRecord} (hmem : (client, record) ∈ state.events)
    (hdevice : client.isSuperuser = false)
    (hremote : client.peerHost ≠ "127.0.0.1") :
    CameIn handler engine state client fun tenant product device =>
      Names (fieldsOf tenant product device) record :=
  (traced_of_reachable hreach).events _ hmem hdevice hremote

/-- A command topic of this device. -/
def CommandTopic (address : DeviceAddress) (topic : String) : Prop :=
  topic = address.propertySetTopic ∨ ∃ service : ServiceAddress,
    service.toDeviceAddress = address ∧ topic = service.downTopic

theorem CommandTopic.levels {address : DeviceAddress} {topic : String}
    (hcommand : CommandTopic address topic) :
    ∃ rest, levels topic = address.path rest := by
  rcases hcommand with rfl | ⟨service, rfl, rfl⟩
  · refine ⟨["property", "down", "set"], ?_⟩
    rw [DeviceAddress.propertySetTopic_eq]
    apply levels_ofLevels (by simp [DeviceAddress.path])
    intro level hlevel
    refine (address.path_isLevel ?_ level hlevel).2
    simp only [List.forall_mem_cons]
    exact ⟨⟨by decide, by decide⟩, ⟨by decide, by decide⟩,
      ⟨by decide, by decide⟩, by simp⟩
  · refine ⟨["service", "down", service.serviceName], ?_⟩
    rw [ServiceAddress.downTopic_eq]
    apply levels_ofLevels (by simp [DeviceAddress.path])
    intro level hlevel
    exact (service.path_isLevel (down_isLevel service) level hlevel).2

/-- In every run whose sessions begin clean, a command for a device reaches,
apart from superusers and clients on the broker's own host, only clients that
were let in under the tenant slug, product key and device slug of that
device. -/
theorem commands_reach_their_device
    (hreach : (system handler engine).ReachableVia
      (fun _ label => CleanStart label) state)
    {address : DeviceAddress} {topic : String}
    (hmem : (client, topic) ∈ state.deliveries)
    (hcommand : CommandTopic address topic)
    (hdevice : client.isSuperuser = false)
    (hremote : client.peerHost ≠ "127.0.0.1") :
    CameIn handler engine state client fun tenant product device =>
      address = addressOf tenant product device := by
  refine ((traced_of_reachable hreach.reachable).deliveries _ hmem hdevice).imp
    ?_
  intro db tenant product device hadmitted _
  have hbelow := (apart_of_reachable hreach).deliveries _ hmem hdevice hremote _
    hadmitted.carries
  obtain ⟨rest, hlevels⟩ := hcommand.levels
  exact hbelow.unique hlevels

end Runs

section Samples

def plainEngine : Engine where
  formatDate _ := "2026-05-05T12:00:00.000Z"
  undefined := .str "undefined"
  undefinedKey := "undefined"
  undefinedDiffers := false

/-- The device `b` connects, asks for its service calls, reports a property and
is called. -/
def lampRun : List Label :=
  [.registry acmeTenant, .registry (lampProduct "anonymous"),
    .registry (lampDevice 4 "b"),
    .connect ⟨"acme:lamp:b", "x", "lamp-b"⟩ "10.0.0.7" true (calmCall 9) 60
      ⟨8, 0⟩,
    .subscribe "lamp-b" "lf/v1/acme/lamp/b/service/down/+",
    .publish "lamp-b" "lf/v1/acme/lamp/b/property/up/post"
      (some (.obj [("tenant_id", .str "other"), ("led", .bool true)]))
      fun index => ⟨10 + index, 0⟩,
    .send "lf/v1/acme/lamp/b/service/down/reboot"]

def emptyBroker : State := ⟨emptyRegistry, [], [], []⟩

theorem emptyBroker_init : (system acmeHandler plainEngine).init emptyBroker :=
  ⟨⟨Table.not_mem_empty, Table.not_mem_empty, Table.not_mem_empty,
    Table.not_mem_empty, Table.not_mem_empty⟩, rfl, rfl, rfl⟩

def ClientInfo.isRemoteDevice (client : ClientInfo) : Bool :=
  !client.isSuperuser && client.peerHost ≠ "127.0.0.1"

/-- The run ends with two events of the device and one command for it. -/
theorem lampRun_ends :
    ((system acmeHandler plainEngine).run emptyBroker lampRun).any
      (fun state => state.events.length = 2 &&
        state.events.any (fun entry => entry.1.isRemoteDevice) &&
        state.deliveries.any fun entry => entry.1.isRemoteDevice &&
          entry.2 = "lf/v1/acme/lamp/b/service/down/reboot") = true := by
  decide +kernel

theorem lampRun_reaches : ∃ state,
    (system acmeHandler plainEngine).run emptyBroker lampRun = some state ∧
    (system acmeHandler plainEngine).ReachableVia
      (fun _ label => CleanStart label) state ∧
    (∃ client record, (client, record) ∈ state.events ∧
      client.isSuperuser = false ∧ client.peerHost ≠ "127.0.0.1") ∧
    ∃ client, (client, "lf/v1/acme/lamp/b/service/down/reboot") ∈
        state.deliveries ∧
      client.isSuperuser = false ∧ client.peerHost ≠ "127.0.0.1" := by
  have hends := lampRun_ends
  cases hrun : (system acmeHandler plainEngine).run emptyBroker lampRun with
  | none =>
      rw [hrun] at hends
      cases hends
  | some state =>
      rw [hrun, Option.any_some] at hends
      simp only [Bool.and_eq_true, List.any_eq_true, decide_eq_true_eq,
        ClientInfo.isRemoteDevice, Bool.not_eq_true'] at hends
      obtain ⟨⟨-, ⟨client, record⟩, hevent, hdevice, hremote⟩,
        ⟨receiver, topic⟩, hdelivery, ⟨hreceiver, haway⟩, htopic⟩ := hends
      dsimp only at htopic
      subst htopic
      refine ⟨state, rfl, ?_, ⟨client, record, hevent, hdevice, hremote⟩,
        ⟨receiver, hdelivery, hreceiver, haway⟩⟩
      have hstart : (system acmeHandler plainEngine).ReachableVia
          (fun _ label => CleanStart label) emptyBroker :=
        .start emptyBroker_init
      exact hstart.of_run (by simp [lampRun, CleanStart]) hrun

theorem events_name_their_device_lamp : ∃ state client record,
    (system acmeHandler plainEngine).run emptyBroker lampRun = some state ∧
    (client, record) ∈ state.events ∧
    CameIn acmeHandler plainEngine state client fun tenant product device =>
      Names (fieldsOf tenant product device) record := by
  obtain ⟨state, hrun, hreach, ⟨client, record, hmem, hdevice, hremote⟩, -⟩ :=
    lampRun_reaches
  exact ⟨state, client, record, hrun, hmem,
    events_name_their_device hreach.reachable hmem hdevice hremote⟩

theorem lampReboot_tenantSlug : validSlug "acme" = true := by
  decide

theorem lampReboot_productKey : validSlug "lamp" = true := by
  decide

theorem lampReboot_deviceSlug : validDeviceSlug "b" = true := by
  decide

theorem lampReboot_serviceName :
    Schemas.namePattern.matches "reboot" = true := by
  decide

/-- The service that the run calls. -/
def lampReboot : ServiceAddress where
  tenantSlug := "acme"
  productKey := "lamp"
  deviceSlug := "b"
  serviceName := "reboot"
  tenantSlug_valid := lampReboot_tenantSlug
  productKey_valid := lampReboot_productKey
  deviceSlug_valid := lampReboot_deviceSlug
  serviceName_valid := lampReboot_serviceName

theorem commands_reach_their_device_lamp : ∃ state client,
    (system acmeHandler plainEngine).run emptyBroker lampRun = some state ∧
    (client, lampReboot.downTopic) ∈ state.deliveries ∧
    CameIn acmeHandler plainEngine state client fun tenant product device =>
      lampReboot.toDeviceAddress = addressOf tenant product device := by
  obtain ⟨state, hrun, hreach, -, client, hmem, hdevice, hremote⟩ :=
    lampRun_reaches
  have htopic : "lf/v1/acme/lamp/b/service/down/reboot" =
      lampReboot.downTopic := by
    decide
  rw [htopic] at hmem
  exact ⟨state, client, hrun, hmem, commands_reach_their_device hreach hmem
    (Or.inr ⟨lampReboot, rfl, rfl⟩) hdevice hremote⟩

end Samples

end Broker

end LinkFlow
