import CodeJudge.Proofs.Actions
import CodeJudge.Proofs.Http.Body
import CodeJudge.Proofs.Http.Route
import CodeJudge.Proofs.Json.Decoder
import CodeJudge.Proofs.Registry.Table
import CodeJudge.Registry.Client
import CodeJudge.Registry.Server

/-!
# The names of services and instances

A client of the registry writes the names of services and instances into addresses as they are, and the
server takes them from the paths that it is asked for.

**The law** (`names_agreed_iff`). A client registers, deregisters and resolves under the names that it is
given exactly where a path carries them (`Http.Carried`) and, to register, the instance is not too long for
the server to read (`Http.Fits`). Where that is not so, there is a table of leases on which the client does
something else than what it was asked for: it says that it failed, or it does it under another name.

**What it does not establish.** That a client should be asked for such names. The names of services and
the ids of workers come from the configuration, and nothing checks them. Nor anything of addresses that are
too long to be sent.
-/

namespace CodeJudge

open Json (Record Value Field)

/-! ## Instances on the wire -/

theorem Instance.decode_tree (instance_ : Instance) : Instance.decode instance_.toJson.tree = .ok instance_ := by
  rw [decode, Record.decode_iff]
  refine .inl ⟨_, rfl, ?_⟩
  rw [record, Record.reads_map]
  refine ⟨(instance_.id, instance_.address), ?_, rfl⟩
  have labelled : ∀ member ∈ Json.memberTrees
      [("id", .string instance_.id), ("address", .string instance_.address)], member.1 ≠ none := by
    simp [Json.memberTrees]
  rw [Record.reads_also (by decide), Record.reads_field labelled, Record.reads_field labelled]
  exact ⟨.once _ rfl (Json.text_tree _), .once _ rfl (Json.text_tree _)⟩

namespace Registry

open Http (Request Response Received Transport Url)

/-- Whether a registry is reached by a client: it gets what is sent to its address, at some time, and its
answer comes back. -/
structure Client.Reaches (client : Client Registry) (now : Nanos) : Prop where
  plain : Url.isPlain client.address = true
  send : client.transport.send client.address = (Transport.ofServer (serve now)).send client.address

/-! ## What a server is asked for -/

section

variable {request : Request} {asked : Asked}

theorem of?_put (method : request.method = .put) : Asked.of? request = some asked ↔
    ∃ service, asked = .register service ∧ Http.partsOf request.target = some [root, service] ∧ service ≠ "" := by
  rw [Asked.of?, method]
  split <;> grind

theorem of?_delete (method : request.method = .delete) : Asked.of? request = some asked ↔
    ∃ service id, asked = .deregister service id ∧
      Http.partsOf request.target = some [root, service, id] ∧ service ≠ "" ∧ id ≠ "" := by
  rw [Asked.of?, method]
  split <;> grind

theorem of?_get (method : request.method = .get) : Asked.of? request = some asked ↔
    ∃ service, asked = .list service ∧ Http.partsOf request.target = some [root, service] ∧ service ≠ "" := by
  rw [Asked.of?, method]
  split <;> grind

theorem serve_nothing (asked : Asked.of? request = none) (now : Nanos) (registry : Registry) :
    (serve now request).run registry = (some Http.nowhere, registry) := by
  show serve now request registry = _
  rw [serve, asked]

theorem serve_register {service : String} (asked : Asked.of? request = some (.register service))
    {instance_ : Instance} (decoded : request.decode Http.bodyLimit Instance.decode = .ok instance_)
    (now : Nanos) (registry : Registry) : (serve now request).run registry =
      match registry.register? now service instance_ with
      | some next => (some { status := 204 }, next)
      | none => (none, registry) := by
  show serve now request registry = _
  rw [serve, asked]
  cases came : registry.register? now service instance_ <;> simp only [decoded, came]

theorem serve_unread {service : String} (asked : Asked.of? request = some (.register service))
    {error : Http.BodyError} (unread : request.decode Http.bodyLimit Instance.decode = .error error)
    (now : Nanos) (registry : Registry) :
    (serve now request).run registry = (some error.toApi.response, registry) := by
  show serve now request registry = _
  rw [serve, asked]
  simp only [unread]

theorem serve_deregister {service id : String} (asked : Asked.of? request = some (.deregister service id))
    (now : Nanos) (registry : Registry) : (serve now request).run registry =
      (some (if (registry.deregister service id).1 then { status := 204 }
        else Http.ApiError.notFound.response), (registry.deregister service id).2) := by
  show serve now request registry = _
  rw [serve, asked]

theorem serve_list {service : String} (asked : Asked.of? request = some (.list service)) (now : Nanos)
    (registry : Registry) : (serve now request).run registry =
      (some { status := 200, body := some (.array ((registry.live now service).map Instance.toJson)) },
        registry) := by
  show serve now request registry = _
  rw [serve, asked]

end

/-! ## Calling a server -/

/-- The first part of every path is carried, whatever names follow. -/
theorem carried_root {name : String} {names : List String} :
    Http.Carried (root :: name :: names) ↔ Http.Carried (name :: names) := by
  have stands : Http.Stands root := by decide
  constructor
  · rintro ⟨all, closes⟩
    exact ⟨fun name mem => all name (List.mem_cons_of_mem _ mem), closes⟩
  · rintro ⟨others, closes⟩
    exact ⟨List.forall_mem_cons.mpr ⟨stands, others⟩, closes⟩

/-- What a client makes of an answer, or of none. -/
def heard (doing : String) : Option Response → Except Fault Bytes
  | some response => response.received.accept.mapError fun text => .during doing (.other text)
  | none => .error (.during doing (.other Http.unreachable))

section

variable {client : Client Registry} {now : Nanos} {service id : String} {instance_ : Instance}

theorem serviceAddress_eq (client : Client Registry) (service : String) :
    client.serviceAddress service = "http://" ++ client.address ++ Http.pathOf [root, service] := by
  have path : Http.pathOf [root, service] = "/registry/" ++ service := by
    apply String.toList_inj.mp
    simp [Http.pathOf, Url.joined, root]
  rw [Client.serviceAddress, path]
  simp only [String.append_assoc]

theorem instanceAddress_eq (client : Client Registry) (service id : String) :
    client.instanceAddress service id = "http://" ++ client.address ++ Http.pathOf [root, service, id] := by
  have path : Http.pathOf [root, service, id] = Http.pathOf [root, service] ++ ("/" ++ id) := by
    apply String.toList_inj.mp
    simp [Http.pathOf, Url.joined]
  rw [Client.instanceAddress, serviceAddress_eq, path]
  simp only [String.append_assoc]

variable (reaches : client.Reaches now)
include reaches

/-- A call is answered by the server, of which the client is told. -/
theorem call_run {names : List String} {first : String} {text : String}
    (address : text = "http://" ++ client.address ++ Http.pathOf (first :: names)) (request : String → Request)
    (doing : String) (registry : Registry) : (client.call text request doing).run registry =
      (heard doing ((serve now (request (Url.ofText text).target)).run registry).1,
        ((serve now (request (Url.ofText text).target)).run registry).2) := by
  have authority : (Url.ofText text).authority = client.address := by
    rw [address, Url.ofText_rooted reaches.plain (by rw [Http.pathOf, String.toList_ofList]; rfl)]
  simp only [Client.call, authority, reaches.send, Transport.ofServer, run_bind]
  cases ((serve now (request (Url.ofText text).target)).run registry).1 <;> rfl

/-- A client that asks for nothing fails. -/
theorem call_lost {names : List String} {first : String} {text : String}
    (address : text = "http://" ++ client.address ++ Http.pathOf (first :: names)) (request : String → Request)
    (asked : Asked.of? (request (Url.ofText text).target) = none) (doing : String) (registry : Registry) :
    (client.call text request doing).run registry =
      (.error (.during doing (.other "HTTP status client error")), registry) := by
  rw [call_run reaches address, serve_nothing asked]
  rfl

theorem register_run {other : String} (fits : Http.Fits Http.bodyLimit instance_.toJson)
    (asked : Asked.of? (Request.ofJson .put
      (Url.ofText (client.serviceAddress service)).target instance_.toJson) = some (.register other))
    (registry : Registry) : (client.register service instance_).run registry =
      match registry.register? now other instance_ with
      | some next => (.ok (), next)
      | none => (.error (.during ("failed to register " ++ instance_.id ++ " under " ++ service)
          (.other Http.unreachable)), registry) := by
  have decoded (target : String) :
      (Request.ofJson .put target instance_.toJson).decode Http.bodyLimit Instance.decode = .ok instance_ := by
    rw [Request.decode_ofJson fits, Instance.decode_tree]
    rfl
  simp only [Client.register, run_bind, call_run reaches (serviceAddress_eq client service),
    serve_register asked (decoded _), run_pure]
  cases registry.register? now other instance_ <;> rfl

theorem register_lost (asked : Asked.of? (Request.ofJson .put
      (Url.ofText (client.serviceAddress service)).target instance_.toJson) = none) (registry : Registry) :
    (client.register service instance_).run registry =
      (.error (.during ("failed to register " ++ instance_.id ++ " under " ++ service)
        (.other "HTTP status client error")), registry) := by
  have lost := call_lost reaches (serviceAddress_eq client service) (Request.ofJson .put · instance_.toJson) asked
  simp only [Client.register, run_bind, lost, run_pure]
  rfl

/-- An instance that is too long to be read is not registered. -/
theorem register_long (long : ¬ Http.Fits Http.bodyLimit instance_.toJson) (registry : Registry) :
    (client.register service instance_).run registry =
      (.error (.during ("failed to register " ++ instance_.id ++ " under " ++ service)
        (.other "HTTP status client error")), registry) := by
  cases asked : Asked.of? (Request.ofJson .put (Url.ofText (client.serviceAddress service)).target
      instance_.toJson) with
  | none => exact register_lost reaches asked registry
  | some what =>
    obtain ⟨other, rfl, -⟩ := (of?_put rfl).mp asked
    simp only [Client.register, run_bind, call_run reaches (serviceAddress_eq client service),
      serve_unread asked (Request.decode_ofJson_of_long long), run_pure]
    rfl

theorem deregister_run {other key : String} (asked : Asked.of?
      { method := .delete, target := (Url.ofText (client.instanceAddress service id)).target } =
        some (.deregister other key))
    (registry : Registry) : (client.deregister service id).run registry =
      (if (registry.deregister other key).1 then .ok ()
        else .error (.during ("failed to deregister " ++ id ++ " from " ++ service)
          (.other "HTTP status client error")),
        (registry.deregister other key).2) := by
  simp only [Client.deregister, run_bind, call_run reaches (instanceAddress_eq client service id),
    serve_deregister asked, run_pure]
  cases (registry.deregister other key).1 <;> rfl

theorem deregister_lost (asked : Asked.of?
      { method := .delete, target := (Url.ofText (client.instanceAddress service id)).target } = none)
    (registry : Registry) : (client.deregister service id).run registry =
      (.error (.during ("failed to deregister " ++ id ++ " from " ++ service)
        (.other "HTTP status client error")), registry) := by
  have lost := call_lost reaches (instanceAddress_eq client service id)
    ({ method := .delete, target := · }) asked
  simp only [Client.deregister, run_bind, lost, run_pure]
  rfl

theorem resolve_run {other : String} (asked : Asked.of?
      { method := .get, target := (Url.ofText (client.serviceAddress service)).target } = some (.list other))
    (registry : Registry) : (client.resolve service).run registry =
      (.ok ((registry.live now other).map (·.address)), registry) := by
  have told (doing : String) (instances : List Instance) :
      heard doing (some { status := 200, body := some (.array (instances.map Instance.toJson)) }) =
        .ok (Utf8.encode (Value.array (instances.map Instance.toJson)).render) := rfl
  simp only [Client.resolve, run_bind, call_run reaches (serviceAddress_eq client service), serve_list asked,
    told, Json.decodeBytes_render, Json.list_tree Instance.decode_tree, run_pure]

theorem resolve_lost (asked : Asked.of?
      { method := .get, target := (Url.ofText (client.serviceAddress service)).target } = none)
    (registry : Registry) : (client.resolve service).run registry =
      (.error (.during ("failed to resolve " ++ service) (.other "HTTP status client error")), registry) := by
  have lost := call_lost reaches (serviceAddress_eq client service) ({ method := .get, target := · }) asked
  simp only [Client.resolve, run_bind, lost, run_pure]

end

/-! ## What a client does that a path carries -/

section

variable (client : Client Registry) (now : Nanos)

/-- **Registering under a name** is registering there, and failing where the lease would run out after the
end of time. -/
def Client.RegistersAs (service : String) (instance_ : Instance) : Prop := ∀ registry,
  (client.register service instance_).run registry =
    match registry.register? now service instance_ with
    | some next => (.ok (), next)
    | none => (.error (.during ("failed to register " ++ instance_.id ++ " under " ++ service)
        (.other Http.unreachable)), registry)

/-- **Deregistering under a name** is taking out the lease there, and failing where there is none. -/
def Client.DeregistersAs (service id : String) : Prop := ∀ registry,
  (client.deregister service id).run registry =
    (if (registry.deregister service id).1 then .ok ()
      else .error (.during ("failed to deregister " ++ id ++ " from " ++ service)
        (.other "HTTP status client error")),
      (registry.deregister service id).2)

/-- **Resolving a name** gives the addresses that are live there. -/
def Client.ResolvesAs (service : String) : Prop := ∀ registry,
  (client.resolve service).run registry = (.ok ((registry.live now service).map (·.address)), registry)

end

/-! ## Which names agree -/

/-- A table with one lease, which holds at a certain time. -/
def single (now : Nanos) (service id : String) : Registry where
  ttl := 0
  services := [(service, [(id, ⟨"", now + 1⟩)])]

theorem leases_single (now : Nanos) (service id other : String) :
    (single now service id).leases other = if other = service then [(id, ⟨"", now + 1⟩)] else [] := by
  rw [leases, single, Directory.get?_cons]
  split <;> rfl

theorem deregister_single (now : Nanos) (service id other key : String) :
    ((single now service id).deregister other key).1 = decide (other = service ∧ key = id) := by
  rw [deregister_fst, leases_single]
  by_cases same : other = service
  · rw [if_pos same, Directory.get?_cons]
    by_cases own : key = id <;> simp [same, own, Directory.get?_nil]
  · rw [if_neg same, Directory.get?_nil]
    simp [same]

theorem live_single (now : Nanos) (service id other : String) :
    (single now service id).live now other = if other = service then [⟨id, ""⟩] else [] := by
  have holds : now < now + 1 := Nat.lt_succ_self now
  rw [live, leases_single]
  split
  · simp [Lease.holds, holds]
  · simp

section

variable {client : Client Registry} {now : Nanos} {service id : String} {instance_ : Instance}
variable (reaches : client.Reaches now)
include reaches

/-- A server is asked to register under the name of a service exactly where a path carries it. -/
theorem asked_register_iff (named : service ≠ "") : Asked.of? (Request.ofJson .put
      (Url.ofText (client.serviceAddress service)).target instance_.toJson) = some (.register service) ↔
    Http.Carried [service] := by
  rw [← carried_root, ← Http.partsOf_pathOf_iff reaches.plain, ← serviceAddress_eq, of?_put rfl]
  constructor
  · rintro ⟨_, ⟨⟩, parts, -⟩
    exact parts
  · exact fun parts => ⟨service, rfl, parts, named⟩

/-- A server is asked to deregister the name of an instance exactly where a path carries it. -/
theorem asked_deregister_iff (named : service ≠ "") (numbered : id ≠ "") : Asked.of?
      { method := .delete, target := (Url.ofText (client.instanceAddress service id)).target } =
        some (.deregister service id) ↔ Http.Carried [service, id] := by
  rw [← carried_root, ← Http.partsOf_pathOf_iff reaches.plain, ← instanceAddress_eq, of?_delete rfl]
  constructor
  · rintro ⟨_, _, ⟨⟩, parts, -⟩
    exact parts
  · exact fun parts => ⟨service, id, rfl, parts, named, numbered⟩

/-- A server is asked for the instances of a service exactly where a path carries its name. -/
theorem asked_list_iff (named : service ≠ "") : Asked.of?
      { method := .get, target := (Url.ofText (client.serviceAddress service)).target } =
        some (.list service) ↔ Http.Carried [service] := by
  rw [← carried_root, ← Http.partsOf_pathOf_iff reaches.plain, ← serviceAddress_eq, of?_get rfl]
  constructor
  · rintro ⟨_, ⟨⟩, parts, -⟩
    exact parts
  · exact fun parts => ⟨service, rfl, parts, named⟩

/-- **A client registers under a name exactly where a path carries it** and the instance is not too long. -/
theorem registersAs_iff (named : service ≠ "") (running : now < endOfTime) :
    client.RegistersAs now service instance_ ↔
      Http.Carried [service] ∧ Http.Fits Http.bodyLimit instance_.toJson := by
  rw [← @asked_register_iff client now service instance_ reaches named]
  refine ⟨fun agrees => ?_, fun ⟨asked, fits⟩ registry => register_run reaches fits asked registry⟩
  -- registering in an empty table shows the name that is registered
  obtain ⟨next, registered⟩ : ∃ next, Registry.register? { ttl := 0 } now service instance_ = some next :=
    ⟨_, register?_eq_some.mpr ⟨running, rfl⟩⟩
  have came := agrees { ttl := 0 }
  rw [registered] at came
  have fits : Http.Fits Http.bodyLimit instance_.toJson := by
    by_contra long
    rw [register_long reaches long] at came
    cases congrArg Prod.fst came
  refine ⟨?_, fits⟩
  cases asked : Asked.of? (Request.ofJson .put (Url.ofText (client.serviceAddress service)).target
      instance_.toJson) with
  | none =>
    rw [register_lost reaches asked] at came
    cases congrArg Prod.fst came
  | some what =>
    obtain ⟨other, rfl, -⟩ := (of?_put rfl).mp asked
    rw [register_run reaches fits asked] at came
    cases there : Registry.register? { ttl := 0 } now other instance_ with
    | none =>
      rw [there] at came
      cases congrArg Prod.fst came
    | some after =>
      rw [there] at came
      have same : after = next := congrArg Prod.snd came
      have found := get?_of_register? registered service instance_.id
      rw [← same, get?_of_register? there, if_pos rfl] at found
      by_contra elsewhere
      rw [if_neg fun aim => elsewhere (congrArg (some <| Asked.register ·) (Prod.ext_iff.mp aim).1)] at found
      cases found

/-- **A client deregisters under a name exactly where a path carries it.** -/
theorem deregistersAs_iff (named : service ≠ "") (numbered : id ≠ "") :
    client.DeregistersAs service id ↔ Http.Carried [service, id] := by
  rw [← asked_deregister_iff reaches named numbered]
  refine ⟨fun agrees => ?_, fun asked registry => deregister_run reaches asked registry⟩
  -- of the only lease there is, no other name is that
  have came := congrArg Prod.fst (agrees (single now service id))
  simp only [deregister_single, and_self, decide_true, ↓reduceIte] at came
  cases asked : Asked.of?
      { method := .delete, target := (Url.ofText (client.instanceAddress service id)).target } with
  | none =>
    rw [deregister_lost reaches asked] at came
    cases came
  | some what =>
    obtain ⟨other, key, rfl, -⟩ := (of?_delete rfl).mp asked
    rw [deregister_run reaches asked] at came
    by_cases aim : other = service ∧ key = id
    · rw [aim.1, aim.2]
    · simp only [deregister_single, aim, decide_false, Bool.false_eq_true, ↓reduceIte, reduceCtorEq] at came

/-- **A client resolves a name exactly where a path carries it.** -/
theorem resolvesAs_iff (named : service ≠ "") :
    client.ResolvesAs now service ↔ Http.Carried [service] := by
  rw [← asked_list_iff reaches named]
  refine ⟨fun agrees => ?_, fun asked registry => resolve_run reaches asked registry⟩
  have came := congrArg Prod.fst (agrees (single now service ""))
  rw [live_single, if_pos rfl] at came
  cases asked : Asked.of?
      { method := .get, target := (Url.ofText (client.serviceAddress service)).target } with
  | none =>
    rw [resolve_lost reaches asked] at came
    cases came
  | some what =>
    obtain ⟨other, rfl, -⟩ := (of?_get rfl).mp asked
    rw [resolve_run reaches asked, live_single] at came
    by_cases aim : other = service
    · rw [aim]
    · rw [if_neg aim] at came
      cases came

/-- **Client and server agree on names exactly where a path carries them.** Registering, deregistering and
resolving do to the table what they say under the names that they are given, and come out accordingly, if
these are not empty and stand for themselves in a path, and what is registered is not too long for the server
to read; and only then. -/
theorem names_agreed_iff (named : service ≠ "") (numbered : instance_.id ≠ "") (running : now < endOfTime) :
    (client.RegistersAs now service instance_ ↔
        Http.Carried [service] ∧ Http.Fits Http.bodyLimit instance_.toJson) ∧
      (client.DeregistersAs service instance_.id ↔ Http.Carried [service, instance_.id]) ∧
      (client.ResolvesAs now service ↔ Http.Carried [service]) :=
  ⟨registersAs_iff reaches named running, deregistersAs_iff reaches named numbered,
    resolvesAs_iff reaches named⟩

end

/-- A client beside the registry that it talks to, at the start of the clock. -/
def besideRegistry : Client Registry where
  transport := .ofServer (serve 0)
  address := "registry:8080"

theorem besideRegistry_reaches : besideRegistry.Reaches 0 := ⟨by decide, rfl⟩

/-- Names with blanks, beyond ASCII and with a percent sign that begins no group are carried. -/
theorem names_agreed_iff_accented :
    let service := "juge naïf"
    let worker : Instance := ⟨"10.0.0.1:9000-7 (50% …)", "10.0.0.1:9000"⟩
    (service ≠ "" ∧ worker.id ≠ "" ∧ (0 : Nanos) < endOfTime) ∧
      besideRegistry.RegistersAs 0 service worker ∧ besideRegistry.DeregistersAs service worker.id ∧
        besideRegistry.ResolvesAs 0 service := by
  intro service worker
  have named : service ≠ "" ∧ worker.id ≠ "" ∧ (0 : Nanos) < endOfTime := by decide
  have single : Http.Carried [service] := by decide
  have double : Http.Carried [service, worker.id] := by decide
  have fits : Http.Fits Http.bodyLimit worker.toJson := by decide +kernel
  obtain ⟨registers, deregisters, resolves⟩ :=
    names_agreed_iff besideRegistry_reaches named.1 named.2.1 named.2.2
  exact ⟨named, registers.mpr ⟨single, fits⟩, deregisters.mpr double, resolves.mpr single⟩

/-- A slash in the name of a service leads nowhere, and what stands behind a question mark or in a group is
registered under another name. -/
theorem names_astray :
    let worker : Instance := ⟨"w", "here:1"⟩
    let table : Registry := { ttl := Nanos.ofSeconds 15 }
    let registered (service : String) : Registry :=
      { table with services := [(service, [("w", ⟨"here:1", Nanos.ofSeconds 15⟩)])] }
    (besideRegistry.register "a/b" worker).run table =
        (.error (.during "failed to register w under a/b" (.other "HTTP status client error")), table) ∧
      (besideRegistry.register "a?b" worker).run table = (.ok (), registered "a") ∧
      (besideRegistry.register "a%62" worker).run table = (.ok (), registered "ab") := by
  intro worker table registered
  have comes (service : String) : table.register? 0 service worker = some (registered service) := by
    have representable : (0 : Nanos) + table.ttl < endOfTime := by decide
    refine register?_eq_some.mpr ⟨representable, ?_⟩
    rw [show (0 : Nanos) + table.ttl = table.ttl from Nat.zero_add _]
    rfl
  have fits : Http.Fits Http.bodyLimit worker.toJson := by decide +kernel
  refine ⟨register_lost besideRegistry_reaches (by decide +kernel) table, ?_, ?_⟩
  · have asked : Asked.of? (Request.ofJson .put (Url.ofText (besideRegistry.serviceAddress "a?b")).target
        worker.toJson) = some (.register "a") := by decide +kernel
    rw [register_run besideRegistry_reaches fits asked, comes]
  · have asked : Asked.of? (Request.ofJson .put (Url.ofText (besideRegistry.serviceAddress "a%62")).target
        worker.toJson) = some (.register "ab") := by decide +kernel
    rw [register_run besideRegistry_reaches fits asked, comes]

end Registry

end CodeJudge
