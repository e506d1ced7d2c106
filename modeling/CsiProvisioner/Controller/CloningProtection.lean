import CsiProvisioner.Api.Validation
import CsiProvisioner.Controller.CloneProtection
import CsiProvisioner.Lib.ApiServer
import CsiProvisioner.Lib.GoErrors
import CsiProvisioner.Lib.RateLimiter

/-!
The cloning protection controller at work (`pkg/controller/clone_controller.go`), with the
claim informer that feeds it and the keys of its queue (`k8s.io/client-go/tools/cache`).

The informer calls `enqueueClaimUpdate` with every claim it delivers as added or updated,
and at every resync; that queues the key `namespace/name` of a claim that is being deleted.
A worker takes a key, splits it back into a namespace and a name, and reads the claim and the
other claims of its namespace from the informer's cache (`syncClaimHandler`, `syncClaim`).
While a claim of the namespace is a pending clone of it, the sync fails; otherwise the worker
strips the finalizer from the claim and writes it back, naming the resource version it read.
The claim the lister hands out is the cache's own object, so the cache holds the claim
without the finalizer from then on, whether the `Update` succeeds or not. A sync that fails,
because of a pending clone or because the `Update` failed, adds the key back rate limited;
otherwise the key is forgotten. An `Update` that finds no claim counts as done.

The world holds the API server's claims and the informer's cache, namespace by namespace,
the claim queue and the workers, each between two of its requests. Anything else may happen
between two steps of a worker: the informer is given the next watch event of a namespace or
resyncs, the provisioner, users and other controllers write and delete claims, other workers
go on, and the `Update` may conflict or be lost, before or after the server carries it out.
The watch of each namespace is delivered in order; those of two namespaces in any order. The
API server takes a new claim only with a valid namespace and name.

An `Update` that conflicts is followed by the watch event of the newer version, which
replaces the stripped claim in the cache and queues the key again. An `Update` lost before
the server carries it out is followed by nothing: the retry reads the stripped claim from
the cache and forgets the key, and a resync hands the stripped claim round again. The claim,
deleted and protecting no clone, keeps the finalizer until another client writes it. The
relist of an informer whose watch broke, which would also replace the cache's object, is
not modelled.
-/

namespace CsiProvisioner.Controller.CloningProtectionController

open Go Api Api.Validation WorkQueue Transition ApiServer

/-! ### The keys of the informer's store -/

/-- `MetaNamespaceKeyFunc`: `namespace/name`, or the name alone for an object without a
namespace. -/
def MetaNamespaceKeyFunc (obj : PersistentVolumeClaim) : String :=
  if obj.ns.utf8ByteSize > 0 then obj.ns ++ "/" ++ obj.name else obj.name

/-- `SplitMetaNamespaceKey`, with `strings.Split(key, "/")`. -/
def SplitMetaNamespaceKey (key : String) : Except String (String × String) :=
  match (key.toList.splitOn '/').map String.ofList with
  -- name only, no namespace
  | [name] => .ok ("", name)
  -- namespace and name
  | [ns, name] => .ok (ns, name)
  | _ => .error ("unexpected key format: " ++ quote key)

lemma SplitMetaNamespaceKey_join {ns name : String} (hns : '/' ∉ ns.toList)
    (hname : '/' ∉ name.toList) : SplitMetaNamespaceKey (ns ++ "/" ++ name) = .ok (ns, name) := by
  have hkey : (ns ++ "/" ++ name).toList = ns.toList ++ '/' :: name.toList := by simp
  unfold SplitMetaNamespaceKey
  rw [hkey, List.splitOn_append_cons_self_of_not_mem hns, List.splitOn_eq_singleton hname]
  simp

lemma SplitMetaNamespaceKey_name {name : String} (hname : '/' ∉ name.toList) :
    SplitMetaNamespaceKey name = .ok ("", name) := by
  unfold SplitMetaNamespaceKey
  simp [List.splitOn_eq_singleton hname]

lemma SplitMetaNamespaceKey_eq_ok {key ns name : String}
    (h : SplitMetaNamespaceKey key = .ok (ns, name)) :
    '/' ∉ ns.toList ∧ '/' ∉ name.toList ∧ (key = ns ++ "/" ++ name ∨ ns = "" ∧ key = name) := by
  have hparts := not_mem_of_mem_splitOn '/' key.toList
  have hjoin : ['/'].intercalate (key.toList.splitOn '/') = key.toList :=
    List.intercalate_splitOn '/'
  unfold SplitMetaNamespaceKey at h
  split at h
  · rename_i name' hsplit
    obtain ⟨l, hl, rfl⟩ := List.map_eq_singleton_iff.mp hsplit
    cases h
    rw [hl] at hparts hjoin
    rw [List.intercalate_singleton] at hjoin
    subst hjoin
    exact ⟨by simp, by simpa using hparts _ List.mem_cons_self, .inr ⟨rfl, by simp⟩⟩
  · rename_i ns' name' hsplit
    obtain ⟨a, rest, hl, rfl, hrest⟩ := List.map_eq_cons_iff.mp hsplit
    obtain ⟨b, hb, rfl⟩ := List.map_eq_singleton_iff.mp hrest
    cases h
    rw [hl, hb] at hparts hjoin
    refine ⟨by simpa using hparts a List.mem_cons_self, by simpa using hparts b (by simp), .inl ?_⟩
    apply String.toList_injective
    rw [← hjoin]
    simp [List.intercalate_cons_of_ne_nil]
  · cases h

/-- **The keys that `SplitMetaNamespaceKey` accepts.** A key splits into a namespace and a
name exactly when neither holds a `/` and the key is the two joined by a `/`, or, for the
empty namespace, the name alone. A key with two `/` or more is refused, and a key that
starts with its only `/` splits into the empty namespace and the rest. -/
theorem SplitMetaNamespaceKey_eq_ok_iff (key ns name : String) :
    SplitMetaNamespaceKey key = .ok (ns, name) ↔
      '/' ∉ ns.toList ∧ '/' ∉ name.toList ∧ (key = ns ++ "/" ++ name ∨ ns = "" ∧ key = name) := by
  refine ⟨SplitMetaNamespaceKey_eq_ok, ?_⟩
  rintro ⟨hns, hname, rfl | ⟨rfl, rfl⟩⟩
  · exact SplitMetaNamespaceKey_join hns hname
  · exact SplitMetaNamespaceKey_name hname

lemma SplitMetaNamespaceKey_MetaNamespaceKeyFunc {obj : PersistentVolumeClaim}
    (hns : '/' ∉ obj.ns.toList) (hname : '/' ∉ obj.name.toList) :
    SplitMetaNamespaceKey (MetaNamespaceKeyFunc obj) = .ok (obj.ns, obj.name) := by
  unfold MetaNamespaceKeyFunc
  split_ifs with hempty
  · exact SplitMetaNamespaceKey_join hns hname
  · have hns' : obj.ns = "" := String.utf8ByteSize_eq_zero_iff.mp (by omega)
    rw [hns']
    exact SplitMetaNamespaceKey_name hname

example : SplitMetaNamespaceKey "default/data" = .ok ("default", "data") := by decide
example : SplitMetaNamespaceKey "a/b/c" = .error "unexpected key format: \"a/b/c\"" := by decide

/-- The API server's check of the namespace and the name of a new claim: the namespace is a
DNS label, and the name a DNS subdomain. -/
def validName (ns name : String) : Bool :=
  (IsDNS1123Label ns).isEmpty && (IsDNS1123Subdomain name).isEmpty

/-! ### The claims -/

/-- The fields of a claim besides its metadata. -/
structure ClaimFields where
  uid : String
  annotations : StrMap
  spec : PersistentVolumeClaimSpec
  phase : PersistentVolumeClaimPhase
  deriving DecidableEq, Repr

abbrev Claim := Object ClaimFields

/-- The `*v1.PersistentVolumeClaim` of a claim of namespace `ns`. -/
def toClaim (ns : String) (claim : Claim) : PersistentVolumeClaim where
  name := claim.metadata.name
  ns := ns
  uid := claim.fields.uid
  resourceVersion := claim.metadata.resourceVersion
  annotations := claim.fields.annotations
  finalizers := claim.metadata.finalizers
  deleting := claim.metadata.deletionTimestamp
  spec := claim.fields.spec
  phase := claim.fields.phase

/-! ### The controller -/

def enqueueClaimUpdate (claimQueue : RateLimitingQueue String) (new : PersistentVolumeClaim) :
    RateLimitingQueue String :=
  -- Timestamp didn't appear
  if !new.deleting then claimQueue
  else claimQueue.add (MetaNamespaceKeyFunc new)

/-- The informer's handlers (`claimHandler`): `enqueueClaimUpdate` for a claim added or
updated; there is no delete handler. -/
def claimHandler (claimQueue : RateLimitingQueue String) (ns : String) :
    WatchEvent ClaimFields → RateLimitingQueue String
  | .written obj => enqueueClaimUpdate claimQueue (toClaim ns obj)
  | .removed _ => claimQueue

/-- Where a worker is in `processNextClaimWorkItem`, between two of its requests. -/
inductive Phase
  /-- It took a key from the queue. -/
  | got
  /-- `syncClaim` writes the claim of namespace `ns` back without the finalizer. -/
  | updating (ns : String) (claim : Claim)
  deriving DecidableEq, Repr

structure Worker where
  key : String
  phase : Phase
  deriving DecidableEq, Repr

/-- The API server's claims and the claim informer's cache, namespace by namespace, the claim
queue, and the workers. -/
structure World where
  server : String → Store ClaimFields
  claims : String → List Claim
  claimQueue : RateLimitingQueue String
  workers : List Worker

/-- The end of `processNextClaimWorkItem`: a key whose sync failed is added back rate
limited, and one whose sync succeeded is forgotten; the worker is then done with it. -/
def finishClaim (q : RateLimitingQueue String) (key : String) (failed : Bool) :
    RateLimitingQueue String :=
  if failed then (q.addRateLimited key).done key else (q.forget key).done key

namespace World

def setServer (w : World) (ns : String) (s : Store ClaimFields) : World :=
  { w with server := Function.update w.server ns s }

def setClaims (w : World) (ns : String) (claims : List Claim) : World :=
  { w with claims := Function.update w.claims ns claims }

def finish (w : World) (i : Nat) (key : String) (failed : Bool) : World :=
  { w with claimQueue := finishClaim w.claimQueue key failed
           workers := w.workers.eraseIdx i }

def setPhase (w : World) (i : Nat) (key : String) (phase : Phase) : World :=
  { w with workers := w.workers.set i ⟨key, phase⟩ }

/-- The next step of worker `i`, which holds `key` and is at `phase`; `fault` is how its
request fares. -/
def work (w : World) (i : Nat) (key : String) (phase : Phase) (fault : Fault) : World :=
  match phase with
  -- `syncClaimHandler`, and `syncClaim` up to its `Update`
  | .got =>
    match SplitMetaNamespaceKey key with
    -- invalid resource key
    | .error _ => w.finish i key false
    | .ok (ns, name) =>
      match Cache.getByKey (w.claims ns) name with
      -- no longer exists
      | none => w.finish i key false
      | some claim =>
        if !checkFinalizer claim.metadata.finalizers pvcCloneFinalizer then w.finish i key false
        else
          match ((w.claims ns).map (toClaim ns)).find?
              (CloneProtection.cloningFrom (toClaim ns claim)) with
          -- cloning in progress
          | some _ => w.finish i key true
          | none =>
            -- `claim` is the cache's own object: `claim.ObjectMeta.Finalizers = finalizers`
            -- strips the finalizer in the cache before the `Update` is sent
            let finalizers := claim.metadata.finalizers.filter (· != pvcCloneFinalizer)
            let stripped := { claim with metadata := { claim.metadata with finalizers } }
            (w.setClaims ns ((w.claims ns).map fun c =>
                if c.metadata.name = claim.metadata.name then stripped else c)).setPhase i key
              (.updating ns stripped)
  -- `syncClaim`'s `Update`
  | .updating ns claim =>
    let request := (w.server ns).call fault ((w.server ns).update claim)
    (w.setServer ns request.2).finish i key
      (match request.1 with
        -- the claim is gone already
        | .error .notFound => false
        | .error _ => true
        | .ok _ => false)

end World

inductive Event
  /-- Another client creates a claim in namespace `ns`. -/
  | create (ns : String) (claim : Claim)
  /-- Another client writes a claim of namespace `ns`: the provisioner puts the finalizer on
  the source of a clone, a clone is bound, a user changes the claim. -/
  | update (ns : String) (claim : Claim)
  | delete (ns name : String)
  /-- The informer is given the oldest watch event of namespace `ns`. -/
  | deliver (ns : String)
  /-- The informer resyncs: every claim of namespace `ns` in its cache is updated. -/
  | resync (ns : String)
  | fire (key : String)
  | get
  | work (i : Nat) (fault : Fault)

def exec (w : World) : Event → Option World
  | .create ns claim =>
    if !validName ns claim.metadata.name then none
    else match (w.server ns).create claim with
      | .ok (_, s) => some (w.setServer ns s)
      | .error _ => none
  | .update ns claim =>
    match (w.server ns).get claim.metadata.name with
    | none => none
    | some cur =>
      if claim.metadata.deletionTimestamp = cur.metadata.deletionTimestamp then
        some (w.setServer ns ((w.server ns).write cur claim).2)
      else none
  | .delete ns name =>
    match (w.server ns).delete name with
    | .ok s => some (w.setServer ns s)
    | .error _ => none
  | .deliver ns =>
    match (w.server ns).watch with
    | [] => none
    | event :: rest =>
      some { w with server := Function.update w.server ns { w.server ns with watch := rest }
                    claims := Function.update w.claims ns (Cache.apply (w.claims ns) event)
                    claimQueue := claimHandler w.claimQueue ns event }
  | .resync ns =>
    some { w with claimQueue := ((w.claims ns).map (toClaim ns)).foldl enqueueClaimUpdate w.claimQueue }
  | .fire key => (w.claimQueue.fire key).map fun claimQueue => { w with claimQueue }
  | .get =>
    w.claimQueue.get.map fun (key, claimQueue) =>
      { w with claimQueue, workers := w.workers ++ [⟨key, .got⟩] }
  | .work i fault => (w.workers[i]?).map fun worker => w.work i worker.key worker.phase fault

/-- No claims, an empty cache and queue, a rate limiter that has seen no failure, and no
worker at work. -/
def Initial (w : World) : Prop :=
  (∀ ns, w.server ns = Store.empty) ∧ (∀ ns, w.claims ns = []) ∧
    w.claimQueue.queue = Queue.empty ∧ (∀ key, w.claimQueue.numRequeues key = 0) ∧ w.workers = []

/-! ### The sync from the cache and the sync of `CloneProtection` -/

section Sync

variable {w : World} {ns name : String}

lemma findClaim_map_toClaim (claims : List Claim) :
    findClaim (claims.map (toClaim ns)) ns name = (Cache.getByKey claims name).map (toClaim ns) := by
  unfold findClaim Cache.getByKey
  rw [List.find?_map]
  congr 2
  funext claim
  simp [toClaim]

lemma claimsIn_map_toClaim (claims : List Claim) :
    claimsIn (claims.map (toClaim ns)) ns = claims.map (toClaim ns) := by
  unfold claimsIn
  rw [List.filter_eq_self]
  intro c hc
  obtain ⟨claim, -, rfl⟩ := List.mem_map.mp hc
  simp [toClaim]

/-- **A sync from the cache decides as `CloneProtection.syncClaimHandler`** does on the claims
of the cache: the worker fails when that fails, forgets the key when that writes nothing, and
otherwise strips the finalizer in the cache and goes on to write the claim that it writes. -/
lemma work_got_of_syncClaimHandler {i : Nat} {key : String} (fault : Fault)
    (hsplit : SplitMetaNamespaceKey key = .ok (ns, name)) :
    match CloneProtection.syncClaimHandler ((w.claims ns).map (toClaim ns)) ns name with
    | .error _ => w.work i key .got fault = w.finish i key true
    | .ok claims =>
      (claims = (w.claims ns).map (toClaim ns) ∧ w.work i key .got fault = w.finish i key false) ∨
        ∃ claim, claims = CloneProtection.updateClaim ((w.claims ns).map (toClaim ns)) (toClaim ns claim) ∧
          w.work i key .got fault = (w.setClaims ns ((w.claims ns).map fun c =>
            if c.metadata.name = claim.metadata.name then claim else c)).setPhase i key
              (.updating ns claim) := by
  simp only [World.work, hsplit, CloneProtection.syncClaimHandler, findClaim_map_toClaim]
  cases Cache.getByKey (w.claims ns) name with
  | none => exact .inl ⟨rfl, rfl⟩
  | some claim =>
    simp only [Option.map_some, CloneProtection.syncClaim]
    have hfin : (toClaim ns claim).finalizers = claim.metadata.finalizers := rfl
    have hns : (toClaim ns claim).ns = ns := rfl
    rw [hfin, hns, claimsIn_map_toClaim]
    split_ifs
    · exact .inl ⟨rfl, rfl⟩
    · cases ((w.claims ns).map (toClaim ns)).find? (CloneProtection.cloningFrom (toClaim ns claim)) with
      | some pvc => rfl
      | none =>
        exact .inr ⟨{ claim with metadata := { claim.metadata with
          finalizers := claim.metadata.finalizers.filter (· != pvcCloneFinalizer) } }, rfl, rfl⟩

end Sync

/-! ### A claim the controller no longer writes -/

/-- Whether an event is another client's write of claim `name` of namespace `ns`. -/
def Event.writes (ns name : String) : Event → Bool
  | .update ns' claim => ns' == ns && claim.metadata.name == name
  | .delete ns' name' => ns' == ns && name' == name
  | _ => false

/-- Whether a worker is about to write claim `name` of namespace `ns`. -/
def Phase.updates (ns name : String) : Phase → Bool
  | .got => false
  | .updating ns' claim => ns' == ns && claim.metadata.name == name

/-- The API server holds `claim` as claim `name` of namespace `ns`, no watch event of it is
still to be delivered, the informer's cache holds it without the finalizer or not at all,
and no worker is about to write it. -/
structure Stuck (w : World) (ns name : String) (claim : Claim) : Prop where
  held : (w.server ns).get name = some claim
  unwatched : ∀ e ∈ (w.server ns).watch, e.name ≠ name
  cached : ∀ c ∈ w.claims ns, c.metadata.name = name →
    checkFinalizer c.metadata.finalizers pvcCloneFinalizer = false
  idle : ∀ worker ∈ w.workers, worker.phase.updates ns name = false

instance (w : World) (ns name : String) (claim : Claim) : Decidable (Stuck w ns name claim) :=
  decidable_of_iff ((w.server ns).get name = some claim ∧ (∀ e ∈ (w.server ns).watch, e.name ≠ name) ∧
      (∀ c ∈ w.claims ns, c.metadata.name = name →
        checkFinalizer c.metadata.finalizers pvcCloneFinalizer = false) ∧
      ∀ worker ∈ w.workers, worker.phase.updates ns name = false)
    ⟨fun ⟨h₁, h₂, h₃, h₄⟩ => ⟨h₁, h₂, h₃, h₄⟩, fun h => ⟨h.held, h.unwatched, h.cached, h.idle⟩⟩

section Stuck

variable {w w' : World} {ns name : String} {claim : Claim}

@[simp] lemma World.setServer_server (w : World) (ns ns' : String) (s : Store ClaimFields) :
    (w.setServer ns s).server ns' = if ns' = ns then s else w.server ns' :=
  Function.update_apply _ _ _ _

@[simp] lemma World.setClaims_claims (w : World) (ns ns' : String) (claims : List Claim) :
    (w.setClaims ns claims).claims ns' = if ns' = ns then claims else w.claims ns' :=
  Function.update_apply _ _ _ _

lemma World.setServer_self (w : World) (ns : String) : w.setServer ns (w.server ns) = w := by
  simp [World.setServer]

lemma name_ne_of_and_beq {ns' n : String} (h : (ns' == ns && n == name) = false) :
    ns' = ns → n ≠ name := by
  rintro rfl rfl
  simp at h

/-- A change of the API server that the watch reports under another claim's name keeps the
claim stuck. -/
lemma Stuck.report (h : Stuck w ns name claim) {ns' : String} {s : Store ClaimFields}
    {e : WatchEvent ClaimFields} (hr : Store.Reports (w.server ns') s e)
    (hother : ns' = ns → e.name ≠ name) : Stuck (w.setServer ns' s) ns name claim := by
  refine ⟨?_, fun e' he' => ?_, h.cached, h.idle⟩
  · rw [World.setServer_server]
    split_ifs with hns
    · subst hns
      rw [hr.2, if_neg (hother rfl)]
      exact h.held
    · exact h.held
  · rw [World.setServer_server] at he'
    split_ifs at he' with hns
    · subst hns
      rw [hr.1] at he'
      rcases List.mem_append.mp he' with he' | he'
      · exact h.unwatched e' he'
      · rw [List.mem_singleton.mp he']
        exact hother rfl
    · exact h.unwatched e' he'

lemma Stuck.update (h : Stuck w ns name claim) {ns' : String} {c o : Claim}
    {s : Store ClaimFields} (hupdate : (w.server ns').update c = .ok (o, s))
    (hother : ns' = ns → c.metadata.name ≠ name) : Stuck (w.setServer ns' s) ns name claim := by
  obtain ⟨e, hr, hname, -⟩ := Store.reports_update hupdate
  exact h.report hr (hname ▸ hother)

lemma Stuck.deliver (h : Stuck w ns name claim) {ns' : String} {event : WatchEvent ClaimFields}
    {rest : List (WatchEvent ClaimFields)} (hwatch : (w.server ns').watch = event :: rest) :
    Stuck { w with server := Function.update w.server ns' { w.server ns' with watch := rest }
                   claims := Function.update w.claims ns' (Cache.apply (w.claims ns') event)
                   claimQueue := claimHandler w.claimQueue ns' event } ns name claim := by
  refine ⟨?_, fun e he => ?_, fun c hc hname => ?_, h.idle⟩
  · simp only [Function.update_apply]
    split_ifs with hns
    · subst hns
      exact h.held
    · exact h.held
  · simp only [Function.update_apply] at he
    split_ifs at he with hns
    · subst hns
      exact h.unwatched e (by rw [hwatch]; exact List.mem_cons_of_mem _ he)
    · exact h.unwatched e he
  · simp only [Function.update_apply] at hc
    split_ifs at hc with hns
    · subst hns
      -- the event delivered is of another claim
      rcases Cache.mem_apply hc with hc | rfl
      · exact h.cached c hc hname
      · exact (h.unwatched (.written c) (by rw [hwatch]; exact List.mem_cons_self) hname).elim
    · exact h.cached c hc hname

lemma Stuck.queue (h : Stuck w ns name claim) (q : RateLimitingQueue String) :
    Stuck { w with claimQueue := q } ns name claim :=
  ⟨h.held, h.unwatched, h.cached, h.idle⟩

lemma Stuck.get (h : Stuck w ns name claim) (key : String) (q : RateLimitingQueue String) :
    Stuck { w with claimQueue := q, workers := w.workers ++ [⟨key, .got⟩] } ns name claim := by
  refine ⟨h.held, h.unwatched, h.cached, fun worker hworker => ?_⟩
  rcases List.mem_append.mp hworker with hworker | hworker
  · exact h.idle worker hworker
  · rw [List.mem_singleton.mp hworker]
    rfl

lemma Stuck.finish (h : Stuck w ns name claim) (i : Nat) (key : String) (failed : Bool) :
    Stuck (w.finish i key failed) ns name claim :=
  ⟨h.held, h.unwatched, h.cached, fun worker hworker =>
    h.idle worker (List.mem_of_mem_eraseIdx hworker)⟩

lemma Stuck.setPhase (h : Stuck w ns name claim) (i : Nat) (key : String) {phase : Phase}
    (hphase : phase.updates ns name = false) : Stuck (w.setPhase i key phase) ns name claim := by
  refine ⟨h.held, h.unwatched, h.cached, fun worker hworker => ?_⟩
  rcases List.mem_or_eq_of_mem_set hworker with hworker | rfl
  · exact h.idle worker hworker
  · exact hphase

/-- Stripping the finalizer of another claim in the cache keeps the claim stuck. -/
lemma Stuck.strip (h : Stuck w ns name claim) {ns' : String} {cur : Claim}
    (hother : ns' = ns → cur.metadata.name ≠ name) (finalizers : List String) :
    Stuck (w.setClaims ns' ((w.claims ns').map fun c =>
      if c.metadata.name = cur.metadata.name then
        { cur with metadata := { cur.metadata with finalizers } } else c)) ns name claim := by
  refine ⟨h.held, h.unwatched, fun c hc hname => ?_, h.idle⟩
  rw [World.setClaims_claims] at hc
  split_ifs at hc with hns
  · subst hns
    obtain ⟨c₀, hc₀, rfl⟩ := List.mem_map.mp hc
    split_ifs at hname ⊢
    · exact absurd hname (hother rfl)
    · exact h.cached c₀ hc₀ hname
  · exact h.cached c hc hname

/-- A worker that takes a key may strip and write another claim, but not the stuck one: its
cache holds that one without the finalizer. -/
lemma Stuck.work_got (h : Stuck w ns name claim) (i : Nat) (key : String) (fault : Fault) :
    Stuck (w.work i key .got fault) ns name claim := by
  simp only [World.work]
  split
  · exact h.finish i key false
  rename_i ns₀ name₀ hsplit
  split
  · exact h.finish i key false
  rename_i cached hcached
  split_ifs with hfin
  · exact h.finish i key false
  split
  · exact h.finish i key true
  have hother : ns₀ = ns → cached.metadata.name ≠ name := by
    rintro rfl hname
    simp [h.cached cached (Cache.getByKey_eq_some hcached).1 hname] at hfin
  refine (h.strip hother _).setPhase i key ?_
  show (ns₀ == ns && cached.metadata.name == name) = false
  by_cases hns : ns₀ = ns
  · simp [hother hns]
  · simp [hns]

lemma Stuck.work_updating (h : Stuck w ns name claim) (i : Nat) (key : String) {ns' : String}
    {c : Claim} (hidle : (Phase.updating ns' c).updates ns name = false) (fault : Fault) :
    Stuck (w.work i key (.updating ns' c) fault) ns name claim := by
  have hother : ns' = ns → c.metadata.name ≠ name := name_ne_of_and_beq hidle
  simp only [World.work]
  refine Stuck.finish ?_ i key _
  -- the `Update` went through, or the API server is as it was
  rcases Store.call_cases (w.server ns') fault ((w.server ns').update c) with
    ⟨b, -, hr⟩ | ⟨-, hs | ⟨b, hr⟩⟩
  · exact h.update hr hother
  · rw [hs, World.setServer_self]
    exact h
  · exact h.update hr hother

lemma Stuck.step (h : Stuck w ns name claim) {e : Event} (hwrites : e.writes ns name = false)
    (hs : exec w e = some w') : Stuck w' ns name claim := by
  cases e with
  | create ns' c =>
    simp only [exec] at hs
    split_ifs at hs
    split at hs
    · rename_i o s hcreate
      cases hs
      refine h.report (Store.reports_create hcreate) fun hns hname => ?_
      -- the API server holds a claim of that name already
      obtain ⟨hnone, rfl, -⟩ := Store.create_eq_ok hcreate
      subst hns
      simp only [WatchEvent.name] at hname
      rw [hname, h.held] at hnone
      cases hnone
    · cases hs
  | update ns' c =>
    simp only [exec] at hs
    split at hs
    · cases hs
    · rename_i cur hcur
      split_ifs at hs
      cases hs
      obtain ⟨hmem, hname⟩ := Store.get_eq_some hcur
      obtain ⟨e, hr, he⟩ := (w.server ns').reports_write cur c hname.symm hmem
      have hename : e.name = c.metadata.name := by
        rcases he with rfl | rfl
        · exact hname
        · simp [WatchEvent.name]
      exact h.report hr (hename ▸ name_ne_of_and_beq hwrites)
  | delete ns' n =>
    simp only [exec] at hs
    split at hs
    · rename_i s hdelete
      cases hs
      rcases Store.reports_delete hdelete with rfl | ⟨e, hr, hname⟩
      · rw [World.setServer_self]
        exact h
      · exact h.report hr (hname ▸ name_ne_of_and_beq hwrites)
    · cases hs
  | deliver ns' =>
    simp only [exec] at hs
    split at hs
    · cases hs
    · rename_i event rest hwatch
      cases hs
      exact h.deliver hwatch
  | resync ns' =>
    cases hs
    exact h.queue _
  | fire key =>
    obtain ⟨q, -, rfl⟩ := Option.map_eq_some_iff.mp hs
    exact h.queue q
  | get =>
    obtain ⟨⟨key, q⟩, -, rfl⟩ := Option.map_eq_some_iff.mp hs
    exact h.get key q
  | work i fault =>
    obtain ⟨⟨key, phase⟩, hworker, rfl⟩ := Option.map_eq_some_iff.mp hs
    have hidle := h.idle _ (List.mem_of_getElem? hworker)
    cases phase with
    | got => exact h.work_got i key fault
    | updating ns' c => exact h.work_updating i key hidle fault

end Stuck

/-! ### A lost `Update` -/

section Runs

theorem retryIntervalStart_lt : (1000000000 : Nat) < 2 ^ 53 := by decide

theorem retryIntervalMax_lt : (300000000000 : Nat) < 2 ^ 63 := by decide

def initialWorld : World where
  server _ := Store.empty
  claims _ := []
  claimQueue := ⟨Queue.empty, NewItemExponentialFailureRateLimiter 1000000000 300000000000
    retryIntervalStart_lt retryIntervalMax_lt⟩
  workers := []

end Runs

end CsiProvisioner.Controller.CloningProtectionController
