import AlonSentinel.Foundation.TransitionSystem
import AlonSentinel.Monitoring.HttpClientCache
import AlonSentinel.System.CertificateProbe

/-! All HTTP and SSL checks of a process over their shared cache of clients, in any interleaving,
and where they connect. Every client is pinned to the key it is cached under, so a check connects
to what its own host resolved to.
-/

namespace AlonSentinel.System

open Caching
open IpAddress
open Monitoring
open TransitionSystem
open Worker

------------------------------------------------------------
-- The system
------------------------------------------------------------

/-- The libraries that checks use; `mayConnect` tells where a client connects for a URL. -/
structure CheckLibraries (Certificate : Type) where
  parseUrl : UrlParser
  tls : TlsLibrary Certificate
  mayConnect : Client → Url → SocketAddr → Bool

/-- A URL parser writes hosts of web URLs in lower case, and a client that neither follows
redirects nor uses a proxy connects for a host it has addresses for to these only.
-/
structure CheckLibraries.Lawful {Certificate : Type} (libraries : CheckLibraries Certificate)
    : Prop where
  lowerCase
    : ∀ text url host,
        libraries.parseUrl text = some url
        → url.scheme = "http" ∨ url.scheme = "https"
        → url.hostStr = some host
        → host.map Char.toLower = host
  pinned
    : ∀ client url host addrs addr,
        client.redirect = .none
        → client.systemProxy = false
        → client.resolveToAddrs = [(host, addrs)]
        → url.hostStr = some host
        → libraries.mayConnect client url addr = true
        → addr ∈ addrs

/-- A connection that a check made, or was about to make. -/
structure Connection where
  call : CheckCall
  target : RuntimeRequestTarget
  addr : SocketAddr

/-- The cache, the checks that run under their numbers, and all connections so far. -/
structure Checks where
  cache : RuntimeHttpClientCache
  running : Nat → Option RunningCheck
  connections : List Connection

def Checks.initial : Checks where
  cache := runtimeHttpClientCache
  running := fun _ => none
  connections := []

inductive RemoteCheckAction (Certificate : Type) where
  | start (id : Nat) (call : CheckCall)
  | evaluateCertificate (id : Nat) (now : Int) (servers : SocketAddr → Server Certificate)
  | lookupClient (id : Nat)
  | buildClient (id : Nat) (builds : Bool)
  | send (id : Nat) (addrs : List SocketAddr)

def Checks.setRunning (state : Checks) (id : Nat) (check : Option RunningCheck) : Checks :=
  { state with running := Function.update state.running id check }

/-- The connections of a check to a list of addresses. -/
def connectionsTo (check : RunningCheck) (addrs : List SocketAddr) : List Connection :=
  addrs.map fun addr => { call := check.call, target := check.target, addr }

variable {Certificate : Type} (libraries : CheckLibraries Certificate)

/-- One step of one check. -/
def stepChecks (state : Checks) : RemoteCheckAction Certificate → Option Checks
  | .start id call =>
      match state.running id with
      | some _ => none
      | none => some (state.setRunning id (startCheck libraries.parseUrl call))
  | .evaluateCertificate id now servers => do
      let check ← state.running id
      match check.phase with
      | .evaluateCertificate warningDays =>
          let evaluated :=
            evaluateSslCertificateForTarget libraries.tls now servers check.target warningDays
          let next := if evaluated.result.isOk then afterCertificate check else none
          some
            { state.setRunning id next with
              connections := state.connections ++ connectionsTo check evaluated.addrs }
      | _ => none
  | .lookupClient id => do
      let check ← state.running id
      match check.phase with
      | .lookupClient =>
          let (client, used) := state.cache.get check.target.cacheKey
          some { state.setRunning id (some (afterLookup check client)) with cache := used }
      | _ => none
  | .buildClient id builds => do
      let check ← state.running id
      match check.phase with
      | .buildClient =>
          if builds then
            let key := check.target.cacheKey
            let (client, cache) := insertClient state.cache key (runtimeClient key)
            some { state.setRunning id (some { check with phase := .send client }) with cache }
          else some (state.setRunning id none)
      | _ => none
  | .send id addrs => do
      let check ← state.running id
      match check.phase with
      | .send client =>
          if addrs.all (libraries.mayConnect client check.target.url) then
            some
              { state.setRunning id none with
                connections := state.connections ++ connectionsTo check addrs }
          else none
      | _ => none

abbrev ReachableChecks (state : Checks) : Prop :=
  Reachable (stepChecks libraries) (· = Checks.initial) state

------------------------------------------------------------
-- The invariant
------------------------------------------------------------

/-- A target that the call itself resolved, and validated if it had to. -/
def ResolvedBy (call : CheckCall) (target : RuntimeRequestTarget) : Prop :=
  resolveRuntimeRequestTarget libraries.parseUrl call.lookupHost call.url
    call.validatePublicTarget = .ok target

/-- A running check has its own target, and a client for it before it sends. -/
structure ValidCheck (check : RunningCheck) : Prop where
  resolved : ResolvedBy libraries check.call check.target
  pinned : ∀ client, check.phase = .send client → client = runtimeClient check.target.cacheKey

/-- A connection goes to an address that its own call resolved. -/
structure Connection.Valid (connection : Connection) : Prop where
  resolved : ResolvedBy libraries connection.call connection.target
  member : connection.addr ∈ connection.target.resolvedAddrs

structure ChecksInvariant (state : Checks) : Prop where
  cached : ∀ key client, state.cache.peek key = some client → client = runtimeClient key
  running : ∀ id check, state.running id = some check → ValidCheck libraries check
  connections : ∀ connection ∈ state.connections, connection.Valid libraries

variable {libraries : CheckLibraries Certificate} {state after : Checks}

theorem initial_invariant : ChecksInvariant libraries Checks.initial where
  cached key client found := by cases found
  running id check found := by cases found
  connections connection member := (List.not_mem_nil member).elim

/-- What runs after a check was set to go on ran before, or is that check. -/
theorem running_of_setRunning {id other : Nat} {next : Option RunningCheck}
    {check : RunningCheck} (found : (state.setRunning id next).running other = some check)
    : next = some check ∨ state.running other = some check := by
  simp only [Checks.setRunning, Function.update_apply] at found
  split at found
  · exact .inl found
  · exact .inr found

/-- Setting a valid check to go on keeps all running checks valid. -/
theorem ChecksInvariant.setRunning (holds : ChecksInvariant libraries state) (id : Nat)
    {next : Option RunningCheck}
    (valid : ∀ check, next = some check → ValidCheck libraries check)
    : ChecksInvariant libraries (state.setRunning id next) where
  cached := holds.cached
  running := by
    intro other check found
    rcases running_of_setRunning found with isNext | ran
    · exact valid check isNext
    · exact holds.running other check ran
  connections := holds.connections

theorem ChecksInvariant.connect (holds : ChecksInvariant libraries state)
    {check : RunningCheck} (resolved : ResolvedBy libraries check.call check.target)
    {addrs : List SocketAddr} (subset : addrs ⊆ check.target.resolvedAddrs)
    : ChecksInvariant libraries
        { state with connections := state.connections ++ connectionsTo check addrs } where
  cached := holds.cached
  running := holds.running
  connections := by
    intro connection member
    rcases List.mem_append.mp member with before | new
    · exact holds.connections connection before
    · obtain ⟨addr, isAddr, rfl⟩ := List.mem_map.mp new
      exact ⟨resolved, subset isAddr⟩

/-- A cache that answers no more than clients pinned to their keys keeps the invariant. -/
theorem ChecksInvariant.cache (holds : ChecksInvariant libraries state)
    {cache : RuntimeHttpClientCache}
    (pinned : ∀ key client, cache.peek key = some client → client = runtimeClient key)
    : ChecksInvariant libraries { state with cache } where
  cached := pinned
  running := holds.running
  connections := holds.connections

/-- A check that starts has resolved its target and has no client yet. -/
theorem startCheck_valid {call : CheckCall} {check : RunningCheck}
    (started : startCheck libraries.parseUrl call = some check)
    : ValidCheck libraries check := by
  unfold startCheck at started
  split at started
  · cases started
  · rename_i target resolved
    cases started
    refine ⟨resolved, fun client sends => ?_⟩
    split at sends <;> cases sends

/-- The client a check builds for its target goes to the addresses of the target only. -/
theorem sent_subset (lawful : libraries.Lawful) {check : RunningCheck}
    (valid : ValidCheck libraries check) {client : Client} (sends : check.phase = .send client)
    {addrs : List SocketAddr}
    (allowed : addrs.all (libraries.mayConnect client check.target.url) = true)
    : addrs ⊆ check.target.resolvedAddrs := by
  obtain ⟨parsed, web, host, isHost, lowered, _⟩ := resolveRuntimeRequestTarget_ok valid.resolved
  have sameHost : check.target.host = host :=
    lowered.trans (lawful.lowerCase _ _ host parsed web isHost)
  obtain rfl := valid.pinned client sends
  intro addr member
  refine lawful.pinned _ check.target.url host _ addr rfl rfl ?_ isHost
    (List.all_eq_true.mp allowed addr member)
  rw [← sameHost]
  rfl

/-- What is cached after a client was inserted is pinned, and so is the client that is used. -/
theorem insertClient_pinned {cache : RuntimeHttpClientCache} (key : RuntimeHttpClientCacheKey)
    (pinned : ∀ key client, cache.peek key = some client → client = runtimeClient key)
    : (insertClient cache key (runtimeClient key)).1 = runtimeClient key
      ∧ ∀ other client,
          (insertClient cache key (runtimeClient key)).2.peek other = some client
          → client = runtimeClient other := by
  unfold insertClient LruCache.get
  cases stored : cache.peek key with
  | some existing =>
      refine ⟨pinned key existing stored, fun other client found => ?_⟩
      simp only [LruCache.peek_promote] at found
      exact pinned other client found
  | none =>
      refine ⟨rfl, fun other client found => ?_⟩
      rcases LruCache.peek_of_peek_put found with ⟨rfl, same⟩ | ⟨_, before⟩
      · exact same
      · exact pinned other client before

theorem ChecksInvariant.step (lawful : libraries.Lawful)
    (holds : ChecksInvariant libraries state) {action : RemoteCheckAction Certificate}
    (taken : stepChecks libraries state action = some after)
    : ChecksInvariant libraries after := by
  cases action with
  | start id call =>
      simp only [stepChecks] at taken
      split at taken
      · cases taken
      · cases taken
        exact holds.setRunning id fun check started => startCheck_valid started
  | evaluateCertificate id now servers =>
      obtain ⟨check, found, taken⟩ := Option.bind_eq_some_iff.mp taken
      have valid := holds.running id check found
      split at taken
      · cases taken
        refine (holds.setRunning id fun next isNext => ?_).connect valid.resolved
          evaluateSslCertificateForTarget_addrs_subset
        split at isNext
        · unfold afterCertificate at isNext
          split at isNext
          · cases isNext
            exact ⟨valid.resolved, fun client sends => by cases sends⟩
          · cases isNext
        · cases isNext
      · cases taken
  | lookupClient id =>
      obtain ⟨check, found, taken⟩ := Option.bind_eq_some_iff.mp taken
      have valid := holds.running id check found
      split at taken
      · cases taken
        refine (holds.setRunning id fun next isNext => ?_).cache fun key client cached => ?_
        · cases isNext
          unfold afterLookup
          split
          · rename_i client cached
            refine ⟨valid.resolved, fun other sends => ?_⟩
            cases sends
            exact holds.cached _ _ cached
          · exact ⟨valid.resolved, fun client sends => by cases sends⟩
        · have unchanged
              : (state.cache.promote check.target.cacheKey).peek key = state.cache.peek key :=
            LruCache.peek_promote
          exact holds.cached key client (unchanged.symm.trans cached)
      · cases taken
  | buildClient id builds =>
      obtain ⟨check, found, taken⟩ := Option.bind_eq_some_iff.mp taken
      have valid := holds.running id check found
      split at taken
      · split at taken
        · cases taken
          obtain ⟨used, cached⟩ := insertClient_pinned check.target.cacheKey holds.cached
          refine (holds.setRunning id fun next isNext => ?_).cache cached
          cases isNext
          refine ⟨valid.resolved, fun client sends => ?_⟩
          cases sends
          exact used
        · cases taken
          exact holds.setRunning id fun next isNext => by cases isNext
      · cases taken
  | send id addrs =>
      obtain ⟨check, found, taken⟩ := Option.bind_eq_some_iff.mp taken
      have valid := holds.running id check found
      split at taken
      · rename_i client sends
        split at taken
        · rename_i allowed
          cases taken
          exact (holds.setRunning id fun next isNext => by cases isNext).connect valid.resolved
            (sent_subset lawful valid sends allowed)
        · cases taken
      · cases taken

theorem checksInvariant_of_reachable (lawful : libraries.Lawful)
    (reachable : ReachableChecks libraries state)
    : ChecksInvariant libraries state :=
  reachable.invariant (ChecksInvariant libraries)
    (by
      rintro _ rfl
      exact initial_invariant)
    fun _ _ _ _ holds taken => holds.step lawful taken

------------------------------------------------------------
-- Where checks connect
------------------------------------------------------------

/-- A client that connects for the host of a key only to the addresses of the key. -/
structure PinnedTo (key : RuntimeHttpClientCacheKey) (client : Client) : Prop where
  addrs : client.resolveToAddrs = [(key.host, key.resolvedAddrs)]
  noRedirects : client.redirect = .none
  noProxy : client.systemProxy = false

/-- No check that asked for a public target was steered elsewhere. -/
structure NeverSteered (libraries : CheckLibraries Certificate) (state : Checks) : Prop where
  connections
    : ∀ connection ∈ state.connections,
        connection.call.validatePublicTarget = true
        → ResolvedBy libraries connection.call connection.target
          ∧ connection.addr ∈ connection.target.resolvedAddrs
          ∧ checkIpIsPublic connection.addr.ip = true
  clients
    : ∀ id check client,
        state.running id = some check
        → check.phase = .send client
        → PinnedTo check.target.cacheKey client
  cached : ∀ key client, state.cache.peek key = some client → PinnedTo key client

theorem runtimeClient_pinnedTo (key : RuntimeHttpClientCacheKey)
    : PinnedTo key (runtimeClient key) :=
  ⟨rfl, rfl, rfl⟩

/-- Checks connect only to the public addresses that their own call resolved. -/
theorem neverSteered (lawful : libraries.Lawful) (reachable : ReachableChecks libraries state)
    : NeverSteered libraries state := by
  have holds := checksInvariant_of_reachable lawful reachable
  refine ⟨fun connection made validated => ?_, fun id check client found sends => ?_,
    fun key client found => ?_⟩
  · obtain ⟨resolved, member⟩ := holds.connections connection made
    obtain ⟨_, _, host, _, _, answer⟩ := resolveRuntimeRequestTarget_ok resolved
    exact ⟨resolved, member, resolveRuntimeTarget_ok answer validated member⟩
  · rw [(holds.running id check found).pinned client sends]
    exact runtimeClient_pinnedTo _
  · rw [holds.cached key client found]
    exact runtimeClient_pinnedTo key

/-- One URL, and a client that connects for a host to the addresses it was given for it. -/
def smallLibraries : CheckLibraries Nat where
  parseUrl := smallParseUrl
  tls := smallTls
  mayConnect := fun client url addr =>
    client.resolveToAddrs.any fun pinned => url.hostStr = some pinned.1 && pinned.2.contains addr

theorem smallLibraries_lawful : smallLibraries.Lawful where
  lowerCase := by
    intro text url host parsed _ isHost
    cases parsed
    cases isHost
    decide +kernel
  pinned := by
    intro client url host addrs addr _ _ pinned isHost allowed
    simpa [smallLibraries, pinned, isHost] using allowed

/-- A check of the URL while its name resolves to some addresses. -/
def smallCall (answer : List SocketAddr) : CheckCall where
  kind := .http false none
  url := "https://shop.test"
  validatePublicTarget := true
  lookupHost := fun _ => some answer

/-- Two checks share a client; for a third one the name resolves to a private address. -/
def reboundCalls : List (RemoteCheckAction Nat) :=
  [.start 0 (smallCall [firstAddr]), .lookupClient 0, .start 1 (smallCall [firstAddr]),
    .lookupClient 1, .buildClient 0 true, .buildClient 1 true, .send 0 [firstAddr],
    .send 1 [firstAddr], .start 2 (smallCall [.v4 ⟨#v[10, 0, 0, 1]⟩ 443])]

theorem reboundCalls_enabled
    : (run (stepChecks smallLibraries) Checks.initial reboundCalls).isSome = true := by
  decide +kernel

theorem neverSteered_reboundCalls
    : let state :=
        (run (stepChecks smallLibraries) Checks.initial reboundCalls).get reboundCalls_enabled
      state.connections.map (·.addr) = [firstAddr, firstAddr]
        ∧ (state.running 2).isNone = true
        ∧ NeverSteered smallLibraries state :=
  ⟨by decide +kernel, by decide +kernel,
    neverSteered smallLibraries_lawful (.of_run rfl (Option.some_get _).symm)⟩

end AlonSentinel.System
