import Mathlib.Data.List.Basic

/-!
The store of one kind of object on an API server, as its clients and its watcher see it.

Every write gives the object the next resource version. A client's update names the version
it read and fails with a conflict when the object has moved on since. A delete marks an
object that has finalizers as being deleted and removes one that has none; the write that
takes the last finalizer off an object being deleted removes it. The watch reports every
write and every removal in order, and an informer's cache holds what the events it has been
given say.

A client works from copies: the objects its informer delivered and the answers to its
requests. A copy is *issued* when the store wrote it: its resource version has been given
out, and an object the store holds under that version is the copy. Every write keeps every
issued copy issued, since it takes a version that no copy has; so an update that names the
version of an issued copy succeeds only on the copy itself, however stale the client's view
of the rest. The store also keeps, as a record for the proofs, every version it wrote and
every object it removed.
-/

namespace ApiServer

/-- The metadata the store reads: the name, the resource version, the finalizers, and
whether the object is being deleted (`DeletionTimestamp != nil`). -/
structure ObjectMeta where
  name : String
  resourceVersion : Nat
  finalizers : List String
  deletionTimestamp : Bool
  deriving DecidableEq, Repr

/-- An object: its metadata, and the fields of its kind, which the store does not read. -/
structure Object (α : Type*) where
  metadata : ObjectMeta
  fields : α
  deriving DecidableEq, Repr

/-- What the watch reports: a version written, or the name of an object removed. -/
inductive WatchEvent (α : Type*)
  | written (obj : Object α)
  | removed (name : String)
  deriving DecidableEq, Repr

def WatchEvent.name {α : Type*} : WatchEvent α → String
  | .written obj => obj.metadata.name
  | .removed name => name

/-- What the watch says of the object of its name: the version written, or none for a
removal. -/
def WatchEvent.object? {α : Type*} : WatchEvent α → Option (Object α)
  | .written obj => some obj
  | .removed _ => none

/-- The errors of a request. -/
inductive StatusError
  | notFound
  | conflict
  | alreadyExists
  /-- The request failed on its way: a timeout, a lost connection. -/
  | other (message : String)
  deriving DecidableEq, Repr

/-- How a request fares on its way: it reaches the server and its answer comes back, it is
lost before the server sees it, or the server carries it out and the answer is lost. -/
inductive Fault
  | none
  | lost (message : String)
  | unanswered (message : String)
  deriving DecidableEq, Repr

/-- The store: the objects it holds, the version it gives the next write, the watch events
its watcher has not been given yet, oldest first, every object it removed, as it was before
the request that removed it, and every version it wrote, oldest first. -/
structure Store (α : Type*) where
  objects : List (Object α)
  nextResourceVersion : Nat
  watch : List (WatchEvent α)
  removed : List (Object α)
  history : List (Object α)

section

variable {α : Type*}

lemma find?_filter_name (objects : List (Object α)) (other name : String) :
    (objects.filter (·.metadata.name != other)).find? (·.metadata.name == name) =
      if other = name then none else objects.find? (·.metadata.name == name) := by
  rw [List.find?_filter]
  split_ifs with h
  · rw [List.find?_eq_none]
    intro o _
    simp [h]
  · congr 1
    funext o
    by_cases ho : o.metadata.name = name
    · simp [ho, Ne.symm h]
    · simp [ho]

lemma find?_map_replace (objects : List (Object α)) (cur obj : Object α)
    (hname : obj.metadata.name = cur.metadata.name) (hcur : cur ∈ objects) (name : String) :
    (objects.map fun o => if o.metadata.name = cur.metadata.name then obj else o).find?
        (·.metadata.name == name) =
      if obj.metadata.name = name then some obj else objects.find? (·.metadata.name == name) := by
  have hpred : ((·.metadata.name == name) ∘ fun o : Object α =>
      if o.metadata.name = cur.metadata.name then obj else o) = (·.metadata.name == name) := by
    funext o
    by_cases ho : o.metadata.name = cur.metadata.name
    · simp [ho, hname]
    · simp [ho]
  rw [List.find?_map, hpred, hname]
  split_ifs with h
  · -- the first object of the name is the one replaced
    subst h
    obtain ⟨o, ho⟩ : ∃ o, objects.find? (·.metadata.name == cur.metadata.name) = some o :=
      Option.isSome_iff_exists.mp (List.find?_isSome.mpr ⟨cur, hcur, by simp⟩)
    have honame : o.metadata.name = cur.metadata.name := by simpa using List.find?_some ho
    simp [ho, honame]
  · cases hf : objects.find? (·.metadata.name == name) with
    | none => rfl
    | some o =>
      have ho : o.metadata.name = name := by simpa using List.find?_some hf
      simp [ho, Ne.symm h]

end

namespace Store

variable {α : Type*}

def empty : Store α := ⟨[], 0, [], [], []⟩

def get (s : Store α) (name : String) : Option (Object α) :=
  s.objects.find? (·.metadata.name == name)

/-- Takes the object `cur` out of the store. -/
def remove (s : Store α) (cur : Object α) : Store α :=
  { s with
    objects := s.objects.filter (·.metadata.name != cur.metadata.name)
    watch := s.watch ++ [.removed cur.metadata.name]
    removed := s.removed ++ [cur] }

/-- Writes `obj` as the next version of `cur`, under the next resource version; an object
being deleted that is left with no finalizers is removed. Gives the version written. -/
def write (s : Store α) (cur obj : Object α) : Object α × Store α :=
  let obj' := { obj with metadata := { obj.metadata with resourceVersion := s.nextResourceVersion } }
  let s' := { s with nextResourceVersion := s.nextResourceVersion + 1
                     history := s.history ++ [obj'] }
  if obj'.metadata.deletionTimestamp ∧ obj'.metadata.finalizers = [] then (obj', s'.remove cur)
  else (obj', { s' with
    objects := s'.objects.map fun o => if o.metadata.name = cur.metadata.name then obj' else o
    watch := s'.watch ++ [.written obj'] })

/-- `Create`: a new object under a name the store does not hold; the server sets its
resource version, and it is not being deleted. -/
def create (s : Store α) (obj : Object α) : Except StatusError (Object α × Store α) :=
  match s.get obj.metadata.name with
  | some _ => .error .alreadyExists
  | none =>
    let obj' := { obj with metadata := { obj.metadata with
      resourceVersion := s.nextResourceVersion, deletionTimestamp := false } }
    .ok (obj', { s with
      objects := s.objects ++ [obj']
      nextResourceVersion := s.nextResourceVersion + 1
      watch := s.watch ++ [.written obj']
      history := s.history ++ [obj'] })

/-- `Update`: writes `obj` if the object of its name still has the version `obj` names; a
client cannot mark or unmark an object as being deleted. -/
def update (s : Store α) (obj : Object α) : Except StatusError (Object α × Store α) :=
  match s.get obj.metadata.name with
  | none => .error .notFound
  | some cur =>
    if cur.metadata.resourceVersion ≠ obj.metadata.resourceVersion then .error .conflict
    else .ok (s.write cur { obj with metadata := { obj.metadata with deletionTimestamp := cur.metadata.deletionTimestamp } })

/-- `Delete`: removes an object without finalizers, and marks one with finalizers as being
deleted; an object already being deleted stays as it is. -/
def delete (s : Store α) (name : String) : Except StatusError (Store α) :=
  match s.get name with
  | none => .error .notFound
  | some cur =>
    if cur.metadata.finalizers = [] then .ok (s.remove cur)
    else if cur.metadata.deletionTimestamp then .ok s
    else .ok (s.write cur { cur with metadata := { cur.metadata with deletionTimestamp := true } }).2

/-- A request as its client sees it: the answer it gets, and the store after the request. -/
def call {β : Type*} (s : Store α) (fault : Fault) (r : Except StatusError (β × Store α)) :
    Except StatusError β × Store α :=
  match fault, r with
  | .none, .ok (b, s') => (.ok b, s')
  | .none, .error e => (.error e, s)
  | .lost message, _ => (.error (.other message), s)
  | .unanswered message, .ok (_, s') => (.error (.other message), s')
  | .unanswered message, .error _ => (.error (.other message), s)

/-! ### Reading the store -/

lemma get_eq_some {s : Store α} {name : String} {o : Object α} (h : s.get name = some o) :
    o ∈ s.objects ∧ o.metadata.name = name := by
  unfold get at h
  exact ⟨List.mem_of_find?_eq_some h, by simpa using List.find?_some h⟩

def Used (s : Store α) (name : String) : Prop :=
  (∃ o ∈ s.objects, o.metadata.name = name) ∨ ∃ o ∈ s.removed, o.metadata.name = name

/-! ### What each request changes -/

@[simp] lemma remove_nextResourceVersion (s : Store α) (cur : Object α) :
    (s.remove cur).nextResourceVersion = s.nextResourceVersion := rfl

@[simp] lemma remove_removed (s : Store α) (cur : Object α) :
    (s.remove cur).removed = s.removed ++ [cur] := rfl

lemma mem_remove_objects {s : Store α} {cur o : Object α} (h : o ∈ (s.remove cur).objects) :
    o ∈ s.objects :=
  List.mem_of_mem_filter h

@[simp] lemma write_fst (s : Store α) (cur obj : Object α) :
    (s.write cur obj).1 = { obj with metadata := { obj.metadata with resourceVersion := s.nextResourceVersion } } := by
  unfold write
  dsimp only
  split_ifs <;> rfl

@[simp] lemma write_nextResourceVersion (s : Store α) (cur obj : Object α) :
    (s.write cur obj).2.nextResourceVersion = s.nextResourceVersion + 1 := by
  unfold write
  dsimp only
  split_ifs <;> rfl

lemma write_history (s : Store α) (cur obj : Object α) :
    (s.write cur obj).2.history = s.history ++ [(s.write cur obj).1] := by
  unfold write
  dsimp only
  split_ifs <;> rfl

lemma mem_write_objects {s : Store α} {cur obj o : Object α} (h : o ∈ (s.write cur obj).2.objects) :
    o ∈ s.objects ∨ o = (s.write cur obj).1 := by
  rw [write_fst]
  unfold write at h
  dsimp only at h
  split_ifs at h
  · exact .inl (mem_remove_objects h)
  · obtain ⟨o', ho', rfl⟩ := List.mem_map.mp h
    split_ifs
    · exact .inr rfl
    · exact .inl ho'

lemma write_removed (s : Store α) (cur obj : Object α) :
    (s.write cur obj).2.removed =
      if obj.metadata.deletionTimestamp ∧ obj.metadata.finalizers = [] then s.removed ++ [cur]
      else s.removed := by
  unfold write
  dsimp only
  split_ifs <;> rfl

lemma Used.write {s : Store α} {cur obj : Object α} (hname : obj.metadata.name = cur.metadata.name)
    {name : String} (h : s.Used name) : (s.write cur obj).2.Used name := by
  unfold Store.write
  dsimp only
  rcases h with ⟨o, ho, rfl⟩ | ⟨o, ho, rfl⟩
  · split_ifs
    · by_cases hcur : o.metadata.name = cur.metadata.name
      · exact .inr ⟨cur, by simp [remove], hcur.symm⟩
      · exact .inl ⟨o, List.mem_filter.mpr ⟨ho, by simpa using hcur⟩, rfl⟩
    · by_cases hcur : o.metadata.name = cur.metadata.name
      · exact .inl ⟨_, List.mem_map.mpr ⟨o, ho, if_pos hcur⟩, hname.trans hcur.symm⟩
      · exact .inl ⟨o, List.mem_map.mpr ⟨o, ho, if_neg hcur⟩, rfl⟩
  · split_ifs
    · exact .inr ⟨o, List.mem_append_left _ ho, rfl⟩
    · exact .inr ⟨o, ho, rfl⟩

lemma Used.remove {s : Store α} {cur : Object α} {name : String} (h : s.Used name) :
    (s.remove cur).Used name := by
  rcases h with ⟨o, ho, rfl⟩ | ⟨o, ho, rfl⟩
  · by_cases hcur : o.metadata.name = cur.metadata.name
    · exact .inr ⟨cur, by simp, hcur.symm⟩
    · exact .inl ⟨o, List.mem_filter.mpr ⟨ho, by simpa using hcur⟩, rfl⟩
  · exact .inr ⟨o, List.mem_append_left _ ho, rfl⟩

/-! ### Issued copies -/

/-- What the store keeps: every object it holds has a version it has given out. -/
def WF (s : Store α) : Prop :=
  ∀ o ∈ s.objects, o.metadata.resourceVersion < s.nextResourceVersion

/-- The store wrote the copy `c`: its version has been given out, and an object the store
holds under that version is `c`. -/
def Issued (s : Store α) (c : Object α) : Prop :=
  c.metadata.resourceVersion < s.nextResourceVersion ∧
    ∀ o ∈ s.objects, o.metadata.resourceVersion = c.metadata.resourceVersion → o = c

lemma WF.remove {s : Store α} (h : s.WF) (cur : Object α) : (s.remove cur).WF :=
  fun o ho => h o (mem_remove_objects ho)

lemma WF.write {s : Store α} (h : s.WF) (cur obj : Object α) : (s.write cur obj).2.WF := by
  intro o ho
  rw [write_nextResourceVersion]
  rcases mem_write_objects ho with ho | rfl
  · exact Nat.lt_succ_of_lt (h o ho)
  · simp

lemma Issued.remove {s : Store α} {c : Object α} (h : s.Issued c) (cur : Object α) :
    (s.remove cur).Issued c :=
  ⟨h.1, fun o ho => h.2 o (mem_remove_objects ho)⟩

lemma Issued.write {s : Store α} {c : Object α} (h : s.Issued c) (cur obj : Object α) :
    (s.write cur obj).2.Issued c := by
  refine ⟨by rw [write_nextResourceVersion]; exact Nat.lt_succ_of_lt h.1, fun o ho hrv => ?_⟩
  rcases mem_write_objects ho with ho | rfl
  · exact h.2 o ho hrv
  · simp only [write_fst] at hrv
    exact absurd hrv (Nat.ne_of_gt h.1)

lemma issued_write {s : Store α} (h : s.WF) (cur obj : Object α) :
    (s.write cur obj).2.Issued (s.write cur obj).1 := by
  refine ⟨by simp, fun o ho hrv => ?_⟩
  rcases mem_write_objects ho with ho | rfl
  · simp only [write_fst] at hrv
    exact absurd hrv (Nat.ne_of_lt (h o ho))
  · rfl

/-! ### The requests -/

lemma update_eq_ok {s s' : Store α} {obj o : Object α} (h : s.update obj = .ok (o, s')) :
    ∃ cur, s.get obj.metadata.name = some cur ∧
      cur.metadata.resourceVersion = obj.metadata.resourceVersion ∧
      (o, s') = s.write cur { obj with metadata := { obj.metadata with deletionTimestamp := cur.metadata.deletionTimestamp } } := by
  unfold update at h
  split at h
  · cases h
  · rename_i cur hcur
    split_ifs at h with hrv
    exact ⟨cur, hcur, not_not.mp hrv, (Except.ok.inj h).symm⟩

lemma update_issued {s s' : Store α} {c obj o : Object α} (hc : s.Issued c)
    (h : s.update obj = .ok (o, s'))
    (hrv : obj.metadata.resourceVersion = c.metadata.resourceVersion) :
    (o, s') = s.write c { obj with metadata := { obj.metadata with deletionTimestamp := c.metadata.deletionTimestamp } } := by
  obtain ⟨cur, hcur, hcurrv, heq⟩ := update_eq_ok h
  have hcur_eq : cur = c := hc.2 cur (get_eq_some hcur).1 (hcurrv.trans hrv)
  rw [heq, hcur_eq]

lemma delete_eq_ok {s s' : Store α} {name : String} (h : s.delete name = .ok s') :
    ∃ cur, s.get name = some cur ∧
      (cur.metadata.finalizers = [] ∧ s' = s.remove cur ∨
        cur.metadata.finalizers ≠ [] ∧ s' = s ∨
        cur.metadata.finalizers ≠ [] ∧
          s' = (s.write cur { cur with metadata := { cur.metadata with deletionTimestamp := true } }).2) := by
  unfold delete at h
  split at h
  · cases h
  · rename_i cur hcur
    refine ⟨cur, hcur, ?_⟩
    split_ifs at h with hfin hdel
    · exact .inl ⟨hfin, (Except.ok.inj h).symm⟩
    · exact .inr (.inl ⟨hfin, (Except.ok.inj h).symm⟩)
    · exact .inr (.inr ⟨hfin, (Except.ok.inj h).symm⟩)

lemma update_removed {s s' : Store α} {c obj o : Object α} (hc : s.Issued c)
    (h : s.update obj = .ok (o, s'))
    (hrv : obj.metadata.resourceVersion = c.metadata.resourceVersion) :
    s'.removed = s.removed ∨ (s'.removed = s.removed ++ [c] ∧ obj.metadata.finalizers = []) := by
  have hs' : s' = (s.write c _).2 := congrArg Prod.snd (update_issued hc h hrv)
  rw [hs', write_removed]
  split_ifs with hrm
  · exact .inr ⟨rfl, hrm.2⟩
  · exact .inl rfl

lemma delete_removed {s s' : Store α} {name : String} (h : s.delete name = .ok s') :
    s'.removed = s.removed ∨ ∃ cur, s'.removed = s.removed ++ [cur] ∧ cur.metadata.finalizers = [] := by
  obtain ⟨cur, -, ⟨hfin, rfl⟩ | ⟨-, rfl⟩ | ⟨hfin, rfl⟩⟩ := delete_eq_ok h
  · exact .inr ⟨cur, rfl, hfin⟩
  · exact .inl rfl
  · rw [write_removed, if_neg fun hrm => hfin hrm.2]
    exact .inl rfl

lemma create_eq_ok {s s' : Store α} {obj o : Object α} (h : s.create obj = .ok (o, s')) :
    s.get obj.metadata.name = none ∧
      o = { obj with metadata := { obj.metadata with
        resourceVersion := s.nextResourceVersion, deletionTimestamp := false } } ∧
      s' = { s with
        objects := s.objects ++ [o]
        nextResourceVersion := s.nextResourceVersion + 1
        watch := s.watch ++ [.written o]
        history := s.history ++ [o] } := by
  unfold create at h
  split at h
  · cases h
  · rename_i hnone
    cases h
    exact ⟨hnone, rfl, rfl⟩

lemma call_cases {β : Type*} (s : Store α) (fault : Fault)
    (r : Except StatusError (β × Store α)) :
    (∃ b, (s.call fault r).1 = .ok b ∧ r = .ok (b, (s.call fault r).2)) ∨
      ((s.call fault r).1.isOk = false ∧
        ((s.call fault r).2 = s ∨ ∃ b, r = .ok (b, (s.call fault r).2))) := by
  unfold call
  split
  · exact .inl ⟨_, rfl, rfl⟩
  · exact .inr ⟨rfl, .inl rfl⟩
  · exact .inr ⟨rfl, .inl rfl⟩
  · exact .inr ⟨rfl, .inr ⟨_, rfl⟩⟩
  · exact .inr ⟨rfl, .inl rfl⟩

instance (s : Store α) (name : String) : Decidable (s.Used name) :=
  inferInstanceAs (Decidable (_ ∨ _))

lemma Used.create {s s' : Store α} {obj o : Object α} (hs : s.create obj = .ok (o, s'))
    {name : String} (h : s.Used name) : s'.Used name := by
  obtain ⟨-, -, rfl⟩ := create_eq_ok hs
  rcases h with ⟨o, ho, hname⟩ | ⟨o, ho, hname⟩
  · exact .inl ⟨o, List.mem_append_left _ ho, hname⟩
  · exact .inr ⟨o, ho, hname⟩

lemma used_call_create {s : Store α} {obj : Object α} (fault : Fault)
    (h : (s.call fault (s.create obj)).1.isOk = true ∨
      (s.call fault (s.create obj)).1 = .error .alreadyExists) :
    (s.call fault (s.create obj)).2.Used obj.metadata.name := by
  cases hc : s.get obj.metadata.name with
  | some cur =>
    -- the object exists already, and the store stays as it was
    have hcreate : s.create obj = .error .alreadyExists := by simp [create, hc]
    have hs : (s.call fault (s.create obj)).2 = s := by
      rw [hcreate]
      cases fault <;> rfl
    rw [hs]
    obtain ⟨hmem, hname⟩ := get_eq_some hc
    exact .inl ⟨cur, hmem, hname⟩
  | none =>
    obtain ⟨o, s', hcreate⟩ : ∃ o s', s.create obj = .ok (o, s') := by
      unfold create
      rw [hc]
      exact ⟨_, _, rfl⟩
    obtain ⟨-, ho, hs'⟩ := create_eq_ok hcreate
    rw [hcreate] at h ⊢
    -- only a request whose answer came back gets the object
    cases fault with
    | none =>
      refine .inl ⟨o, ?_, by rw [ho]⟩
      rw [hs']
      exact List.mem_append_right _ (List.mem_singleton_self _)
    | lost message => simp [call, Except.isOk, Except.toBool] at h
    | unanswered message => simp [call, Except.isOk, Except.toBool] at h

lemma write_watch (s : Store α) (cur obj : Object α) :
    ∃ e, (s.write cur obj).2.watch = s.watch ++ [e] ∧
      (e = .removed cur.metadata.name ∨ e = .written (s.write cur obj).1) := by
  rw [write_fst]
  unfold write
  dsimp only
  split_ifs
  · exact ⟨_, rfl, .inl rfl⟩
  · exact ⟨_, rfl, .inr rfl⟩

/-! ### Any request -/

/-- The store after a request: a write of a version of an object under its name, a removal,
or a creation. -/
inductive Changes (s : Store α) : Store α → Prop
  | refl : Changes s s
  | write {cur obj : Object α} : obj.metadata.name = cur.metadata.name →
      s.Used cur.metadata.name → Changes s (s.write cur obj).2
  | remove (cur : Object α) : Changes s (s.remove cur)
  | create {obj o : Object α} {s' : Store α} : s.create obj = .ok (o, s') → Changes s s'

lemma Used.changes {s s' : Store α} (hs : Changes s s') {name : String} (h : s.Used name) :
    s'.Used name := by
  cases hs with
  | refl => exact h
  | write hname _ => exact h.write hname
  | remove cur => exact h.remove
  | create hs => exact h.create hs

lemma update_changes {s s' : Store α} {obj o : Object α} (h : s.update obj = .ok (o, s')) :
    Changes s s' := by
  obtain ⟨cur, hcur, -, heq⟩ := update_eq_ok h
  have hs' : s' = (s.write cur _).2 := congrArg Prod.snd heq
  rw [hs']
  obtain ⟨hmem, hname⟩ := get_eq_some hcur
  exact .write hname.symm (.inl ⟨cur, hmem, rfl⟩)

lemma delete_changes {s s' : Store α} {name : String} (h : s.delete name = .ok s') :
    Changes s s' := by
  obtain ⟨cur, hcur, ⟨-, rfl⟩ | ⟨-, rfl⟩ | ⟨-, rfl⟩⟩ := delete_eq_ok h
  · exact .remove cur
  · exact .refl
  · exact .write rfl (.inl ⟨cur, (get_eq_some hcur).1, rfl⟩)

lemma call_snd_of {β : Type*} {P : Store α → Prop} {s : Store α} (fault : Fault)
    {r : Except StatusError (β × Store α)} (hs : P s) (h : ∀ b s', r = .ok (b, s') → P s') :
    P (s.call fault r).2 := by
  rcases call_cases s fault r with ⟨b, -, hr⟩ | ⟨-, hs' | ⟨b, hr⟩⟩
  · exact h b _ hr
  · rw [hs']
    exact hs
  · exact h b _ hr

lemma call_changes {β : Type*} {s : Store α} (fault : Fault) {r : Except StatusError (β × Store α)}
    (h : ∀ b s', r = .ok (b, s') → Changes s s') : Changes s (s.call fault r).2 :=
  call_snd_of fault .refl h

/-! ### Reported changes -/

/-- `s'` is `s` after one change that the watch reports as `e`: the event is the last of the
watch, and the store answers for the name of `e` as `e` says, and for every other name as
before. -/
def Reports (s s' : Store α) (e : WatchEvent α) : Prop :=
  s'.watch = s.watch ++ [e] ∧
    ∀ name, s'.get name = if e.name = name then e.object? else s.get name

lemma reports_remove (s : Store α) (cur : Object α) :
    Reports s (s.remove cur) (.removed cur.metadata.name) :=
  ⟨rfl, find?_filter_name s.objects cur.metadata.name⟩

lemma reports_write (s : Store α) (cur obj : Object α) (hname : obj.metadata.name = cur.metadata.name)
    (hcur : cur ∈ s.objects) :
    ∃ e, Reports s (s.write cur obj).2 e ∧
      (e = .removed cur.metadata.name ∨ e = .written (s.write cur obj).1) := by
  rw [write_fst]
  unfold write
  dsimp only
  split_ifs
  · exact ⟨_, reports_remove _ cur, .inl rfl⟩
  · exact ⟨_, ⟨rfl, find?_map_replace s.objects cur _ hname hcur⟩, .inr rfl⟩

lemma reports_create {s s' : Store α} {obj o : Object α} (h : s.create obj = .ok (o, s')) :
    Reports s s' (.written o) := by
  obtain ⟨hnone, rfl, rfl⟩ := create_eq_ok h
  refine ⟨rfl, fun name => ?_⟩
  simp only [get, List.find?_append, WatchEvent.name, WatchEvent.object?]
  split_ifs with h
  · subst h
    rw [show s.objects.find? _ = none from hnone]
    simp
  · simp [h]

lemma reports_update {s s' : Store α} {obj o : Object α} (h : s.update obj = .ok (o, s')) :
    ∃ e, Reports s s' e ∧ e.name = obj.metadata.name ∧
      ∀ o', e.object? = some o' → o'.metadata.finalizers = obj.metadata.finalizers := by
  obtain ⟨cur, hcur, -, heq⟩ := update_eq_ok h
  obtain ⟨hmem, hname⟩ := get_eq_some hcur
  generalize hobj : ({ obj with metadata := { obj.metadata with
    deletionTimestamp := cur.metadata.deletionTimestamp } } : Object α) = obj' at heq
  have hname' : obj'.metadata.name = cur.metadata.name := by rw [← hobj, hname]
  have hfin : obj'.metadata.finalizers = obj.metadata.finalizers := by rw [← hobj]
  rw [show s' = (s.write cur obj').2 from congrArg Prod.snd heq]
  obtain ⟨e, hr, rfl | rfl⟩ := s.reports_write cur obj' hname' hmem
  · exact ⟨_, hr, hname, fun o' ho' => by cases ho'⟩
  · refine ⟨_, hr, by simp [WatchEvent.name, hname', hname], fun o' ho' => ?_⟩
    cases ho'
    simp [hfin]

lemma reports_delete {s s' : Store α} {name : String} (h : s.delete name = .ok s') :
    s' = s ∨ ∃ e, Reports s s' e ∧ e.name = name := by
  obtain ⟨cur, hcur, ⟨-, rfl⟩ | ⟨-, rfl⟩ | ⟨-, rfl⟩⟩ := delete_eq_ok h
  · exact .inr ⟨_, reports_remove s cur, (get_eq_some hcur).2⟩
  · exact .inl rfl
  · obtain ⟨hmem, hname⟩ := get_eq_some hcur
    obtain ⟨e, hr, rfl | rfl⟩ := s.reports_write cur
      { cur with metadata := { cur.metadata with deletionTimestamp := true } } rfl hmem
    · exact .inr ⟨_, hr, hname⟩
    · exact .inr ⟨_, hr, by simp [WatchEvent.name, hname]⟩

/-! ### The copies a client holds -/

/-- A copy the store stands behind: a version it wrote and has issued, under a name it has
used. -/
structure Copy (s : Store α) (c : Object α) : Prop where
  issued : s.Issued c
  used : s.Used c.metadata.name
  written : c ∈ s.history

lemma Copy.write {s : Store α} {c : Object α} (h : s.Copy c) {cur obj : Object α}
    (hname : obj.metadata.name = cur.metadata.name) : (s.write cur obj).2.Copy c := by
  refine ⟨h.issued.write cur obj, h.used.write hname, ?_⟩
  rw [write_history]
  exact List.mem_append_left _ h.written

lemma Copy.remove {s : Store α} {c : Object α} (h : s.Copy c) (cur : Object α) :
    (s.remove cur).Copy c :=
  ⟨h.issued.remove cur, h.used.remove, h.written⟩

lemma Copy.pop {s : Store α} {c : Object α} (h : s.Copy c) (watch : List (WatchEvent α)) :
    { s with watch }.Copy c :=
  ⟨h.issued, h.used, h.written⟩

lemma copy_write {s : Store α} (hwf : s.WF) {cur obj : Object α}
    (hname : obj.metadata.name = cur.metadata.name) (hcur : s.Used cur.metadata.name) :
    (s.write cur obj).2.Copy (s.write cur obj).1 := by
  refine ⟨issued_write hwf cur obj, ?_, ?_⟩
  · rw [write_fst]
    exact hname ▸ hcur.write hname
  · rw [write_history]
    exact List.mem_append_right _ (List.mem_singleton_self _)

lemma WF.create {s s' : Store α} {obj o : Object α} (h : s.WF)
    (hs : s.create obj = .ok (o, s')) : s'.WF := by
  obtain ⟨-, rfl, rfl⟩ := create_eq_ok hs
  intro o' ho'
  rcases List.mem_append.mp ho' with ho' | ho'
  · exact Nat.lt_succ_of_lt (h o' ho')
  · rw [List.mem_singleton.mp ho']
    exact Nat.lt_succ_self _

lemma Copy.create {s s' : Store α} {c obj o : Object α} (h : s.Copy c)
    (hs : s.create obj = .ok (o, s')) : s'.Copy c := by
  have hused := h.used.create hs
  obtain ⟨-, rfl, rfl⟩ := create_eq_ok hs
  refine ⟨⟨Nat.lt_succ_of_lt h.issued.1, fun o ho hrv => ?_⟩, hused, List.mem_append_left _ h.written⟩
  rcases List.mem_append.mp ho with ho | ho
  · exact h.issued.2 o ho hrv
  · rw [List.mem_singleton.mp ho] at hrv
    exact absurd hrv (Nat.ne_of_gt h.issued.1)

lemma copy_create {s s' : Store α} {obj o : Object α} (h : s.WF)
    (hs : s.create obj = .ok (o, s')) : s'.Copy o := by
  obtain ⟨-, rfl, rfl⟩ := create_eq_ok hs
  refine ⟨⟨Nat.lt_succ_self _, fun o' ho' hrv => ?_⟩,
    .inl ⟨_, List.mem_append_right _ (List.mem_singleton_self _), rfl⟩,
    List.mem_append_right _ (List.mem_singleton_self _)⟩
  rcases List.mem_append.mp ho' with ho' | ho'
  · exact absurd hrv (Nat.ne_of_lt (h o' ho'))
  · exact List.mem_singleton.mp ho'

/-- What the store keeps of a client's copies: the store gives out versions in order, and
every copy, as every version the watch has still to report, is one it stands behind. -/
structure Coherent (s : Store α) (copies : List (Object α)) : Prop where
  wf : s.WF
  watch : ∀ obj, .written obj ∈ s.watch → s.Copy obj
  copies : ∀ c ∈ copies, s.Copy c

lemma Coherent.of_subset {s : Store α} {copies copies' : List (Object α)} (h : Coherent s copies)
    (hsub : ∀ c ∈ copies', c ∈ copies ∨ s.Copy c) : Coherent s copies' := by
  refine ⟨h.wf, h.watch, fun c hc => ?_⟩
  rcases hsub c hc with hc | hc
  · exact h.copies c hc
  · exact hc

lemma Coherent.write {s : Store α} {copies : List (Object α)} (h : Coherent s copies)
    {cur obj : Object α} (hname : obj.metadata.name = cur.metadata.name)
    (hcur : s.Used cur.metadata.name) : Coherent (s.write cur obj).2 copies := by
  -- the version written is a copy, and so is every version the watch reported before
  refine ⟨h.wf.write cur obj, fun o ho => ?_, fun c hc => (h.copies c hc).write hname⟩
  obtain ⟨e, hwatch, he⟩ := write_watch s cur obj
  rw [hwatch] at ho
  rcases List.mem_append.mp ho with ho | ho
  · exact (h.watch o ho).write hname
  · rcases he with rfl | rfl
    · simp at ho
    · cases List.mem_singleton.mp ho
      exact copy_write h.wf hname hcur

lemma Coherent.remove {s : Store α} {copies : List (Object α)} (h : Coherent s copies)
    (cur : Object α) : Coherent (s.remove cur) copies := by
  refine ⟨h.wf.remove cur, fun o ho => ?_, fun c hc => (h.copies c hc).remove cur⟩
  have ho : WatchEvent.written o ∈ s.watch := by simpa [Store.remove] using ho
  exact (h.watch o ho).remove cur

lemma Coherent.create {s s' : Store α} {copies : List (Object α)} (h : Coherent s copies)
    {obj o : Object α} (hs : s.create obj = .ok (o, s')) : Coherent s' copies := by
  have hwatch : s'.watch = s.watch ++ [.written o] := by
    rw [(create_eq_ok hs).2.2]
  refine ⟨h.wf.create hs, fun c hc => ?_, fun c hc => (h.copies c hc).create hs⟩
  rw [hwatch] at hc
  rcases List.mem_append.mp hc with hc | hc
  · exact (h.watch c hc).create hs
  · cases List.mem_singleton.mp hc
    exact copy_create h.wf hs

lemma Coherent.changes {s s' : Store α} {copies : List (Object α)} (h : Coherent s copies)
    (hs : Changes s s') : Coherent s' copies := by
  cases hs with
  | refl => exact h
  | write hname hcur => exact h.write hname hcur
  | remove cur => exact h.remove cur
  | create hs => exact h.create hs

lemma Coherent.pop {s : Store α} {copies : List (Object α)} (h : Coherent s copies)
    {e : WatchEvent α} {rest : List (WatchEvent α)} (hwatch : s.watch = e :: rest) :
    Coherent { s with watch := rest } copies :=
  ⟨h.wf, fun o ho => (h.watch o (hwatch ▸ List.mem_cons_of_mem _ ho)).pop rest,
    fun c hc => (h.copies c hc).pop rest⟩

end Store

/-! ### An informer's cache -/

namespace Cache

variable {α : Type*}

/-- The cache after an event: the version written takes the place of the one of its name, and
a removed object leaves. -/
def apply (cache : List (Object α)) : WatchEvent α → List (Object α)
  | .written obj => cache.filter (·.metadata.name != obj.metadata.name) ++ [obj]
  | .removed name => cache.filter (·.metadata.name != name)

/-- `GetByKey`: the object of a name. -/
def getByKey (cache : List (Object α)) (name : String) : Option (Object α) :=
  cache.find? (·.metadata.name == name)

lemma getByKey_eq_some {cache : List (Object α)} {name : String} {o : Object α}
    (h : getByKey cache name = some o) : o ∈ cache ∧ o.metadata.name = name := by
  unfold getByKey at h
  exact ⟨List.mem_of_find?_eq_some h, by simpa using List.find?_some h⟩

lemma mem_apply {cache : List (Object α)} {e : WatchEvent α} {o : Object α}
    (h : o ∈ apply cache e) : o ∈ cache ∨ e = .written o := by
  cases e with
  | written obj =>
    rcases List.mem_append.mp h with h | h
    · exact .inl (List.mem_of_mem_filter h)
    · exact .inr (by rw [List.mem_singleton.mp h])
  | removed name => exact .inl (List.mem_of_mem_filter h)

end Cache

end ApiServer
