import Mathlib.Data.List.Basic
import Mathlib.Data.List.InsertIdx
import Mathlib.Data.List.Nodup

/-!
The rate-limited work queue of a controller: items wait in FIFO order, an item waits at most
once, an item handed to a worker is not handed to another one until the worker is done
with it, and an item added meanwhile comes back when that worker is done. A failed item is
added again after a delay; while it waits for that delay, the queue is not idle.
-/

namespace WorkQueue

/-- The queue proper, the items added and not yet handed out, the items handed out and not
done, and the items that come back after a delay. -/
structure Queue (α : Type*) where
  queue : List α
  dirty : List α
  processing : List α
  waiting : List α
  deriving DecidableEq, Repr

namespace Queue

variable {α : Type*} [DecidableEq α]

def empty : Queue α := ⟨[], [], [], []⟩

/-- `Add`: a waiting item is not added twice, and an item being processed comes back only
once its worker is done. -/
def add (q : Queue α) (x : α) : Queue α :=
  if x ∈ q.dirty then q
  else if x ∈ q.processing then { q with dirty := q.dirty ++ [x] }
  else { q with dirty := q.dirty ++ [x], queue := q.queue ++ [x] }

/-- `Get`: hands the first item of the queue to a worker. -/
def get (q : Queue α) : Option (α × Queue α) :=
  match q.queue with
  | [] => none
  | x :: rest =>
    some (x, { q with
      queue := rest
      processing := q.processing ++ [x]
      dirty := q.dirty.erase x })

/-- `Done`: the worker is finished with the item; if it was added meanwhile, it queues. -/
def done (q : Queue α) (x : α) : Queue α :=
  let q' := { q with processing := q.processing.erase x }
  if x ∈ q.dirty then { q' with queue := q'.queue ++ [x] } else q'

/-- `AddRateLimited`, which calls `AddAfter` with a positive delay: the item is added again
once its delay has passed. An item that waits already keeps its one entry, which the delaying
queue moves to the earlier of the two times; the times are not modelled. -/
def addRateLimited (q : Queue α) (x : α) : Queue α :=
  if x ∈ q.waiting then q else { q with waiting := q.waiting ++ [x] }

def fire (q : Queue α) (x : α) : Option (Queue α) :=
  if x ∈ q.waiting then some (add { q with waiting := q.waiting.erase x } x) else none

/-- Nothing waits, nothing is being processed, and nothing comes back after a delay. -/
def Idle (q : Queue α) : Prop := q.queue = [] ∧ q.processing = [] ∧ q.waiting = []

instance (q : Queue α) : Decidable (Idle q) := inferInstanceAs (Decidable (_ ∧ _ ∧ _))

/-- Everything the queue still holds for a worker, now or later. -/
def Pending (q : Queue α) (x : α) : Prop := x ∈ q.queue ∨ x ∈ q.processing ∨ x ∈ q.waiting

/-! ### The shape the queue keeps -/

omit [DecidableEq α] in
private lemma nodup_append_singleton {l : List α} {x : α} (hl : l.Nodup) (hx : x ∉ l) :
    (l ++ [x]).Nodup := by
  rw [← List.concat_eq_append]
  exact hl.concat hx

/-- What the operations keep: an item waits at most once, and only while it is marked dirty
and no worker has it; no two workers have one item; a dirty item waits or is with a worker. -/
structure WF (q : Queue α) : Prop where
  queue_nodup : q.queue.Nodup
  processing_nodup : q.processing.Nodup
  dirty_of_queue : ∀ x ∈ q.queue, x ∈ q.dirty
  not_processing_of_queue : ∀ x ∈ q.queue, x ∉ q.processing
  queued_of_dirty : ∀ x ∈ q.dirty, x ∈ q.queue ∨ x ∈ q.processing

omit [DecidableEq α] in
lemma wf_empty : (empty : Queue α).WF :=
  ⟨.nil, .nil, by simp [empty], by simp [empty], by simp [empty]⟩

lemma WF.add {q : Queue α} (hq : q.WF) (x : α) : (q.add x).WF := by
  unfold Queue.add
  split_ifs with hdirty hprocessing
  · exact hq
  · refine ⟨hq.queue_nodup, hq.processing_nodup,
      fun y hy => List.mem_append_left _ (hq.dirty_of_queue y hy), hq.not_processing_of_queue,
      fun y hy => ?_⟩
    rcases List.mem_append.mp hy with hy | hy
    · exact hq.queued_of_dirty y hy
    · rw [List.mem_singleton.mp hy]
      exact .inr hprocessing
  · -- a new item: it is not queued, since every queued item is dirty
    have hnew : x ∉ q.queue := fun hx => hdirty (hq.dirty_of_queue x hx)
    refine ⟨nodup_append_singleton hq.queue_nodup hnew, hq.processing_nodup, fun y hy => ?_,
      fun y hy => ?_, fun y hy => ?_⟩
    · rcases List.mem_append.mp hy with hy | hy
      · exact List.mem_append_left _ (hq.dirty_of_queue y hy)
      · exact List.mem_append_right _ hy
    · rcases List.mem_append.mp hy with hy | hy
      · exact hq.not_processing_of_queue y hy
      · rw [List.mem_singleton.mp hy]
        exact hprocessing
    · rcases List.mem_append.mp hy with hy | hy
      · exact (hq.queued_of_dirty y hy).imp_left (List.mem_append_left _)
      · exact .inl (List.mem_append_right _ hy)

lemma WF.get {q q' : Queue α} {x : α} (hq : q.WF) (h : q.get = some (x, q')) : q'.WF := by
  unfold Queue.get at h
  split at h
  · cases h
  · rename_i head rest hqueue
    simp only [Option.some.injEq, Prod.mk.injEq] at h
    obtain ⟨rfl, rfl⟩ := h
    have hnodup := hq.queue_nodup
    rw [hqueue, List.nodup_cons] at hnodup
    have hhead : head ∉ q.processing := hq.not_processing_of_queue head (by simp [hqueue])
    refine ⟨hnodup.2, nodup_append_singleton hq.processing_nodup hhead, fun y hy => ?_,
      fun y hy => ?_, fun y hy => ?_⟩
    · have hyx : y ≠ head := fun h => hnodup.1 (h ▸ hy)
      exact (List.mem_erase_of_ne hyx).mpr (hq.dirty_of_queue y (by simp [hqueue, hy]))
    · have hyx : y ≠ head := fun h => hnodup.1 (h ▸ hy)
      simpa [hyx] using hq.not_processing_of_queue y (by simp [hqueue, hy])
    · -- the head leaves the queue for the worker
      rcases hq.queued_of_dirty y (List.mem_of_mem_erase hy) with hy | hy
      · rw [hqueue] at hy
        rcases List.mem_cons.mp hy with rfl | hy
        · exact .inr (List.mem_append_right _ (List.mem_singleton_self _))
        · exact .inl hy
      · exact .inr (List.mem_append_left _ hy)

lemma get_processing {q q' : Queue α} {x : α} (h : q.get = some (x, q')) :
    q'.processing = q.processing ++ [x] := by
  unfold Queue.get at h
  split at h
  · cases h
  · simp only [Option.some.injEq, Prod.mk.injEq] at h
    obtain ⟨rfl, rfl⟩ := h
    rfl

lemma WF.done {q : Queue α} (hq : q.WF) {x : α} (hx : x ∈ q.processing) : (q.done x).WF := by
  unfold Queue.done
  -- an item being processed is not queued, and leaves the items being processed
  have hqueue : x ∉ q.queue := fun h => hq.not_processing_of_queue x h hx
  have herased : x ∉ q.processing.erase x := hq.processing_nodup.not_mem_erase
  split_ifs with hdirty
  · refine ⟨nodup_append_singleton hq.queue_nodup hqueue, hq.processing_nodup.erase x,
      fun y hy => ?_, fun y hy => ?_, fun y hy => ?_⟩
    · rcases List.mem_append.mp hy with hy | hy
      · exact hq.dirty_of_queue y hy
      · rw [List.mem_singleton.mp hy]
        exact hdirty
    · rcases List.mem_append.mp hy with hy | hy
      · exact fun h => hq.not_processing_of_queue y hy (List.mem_of_mem_erase h)
      · rw [List.mem_singleton.mp hy]
        exact herased
    · -- the item comes back to the queue; the other dirty items stay where they were
      by_cases hyx : y = x
      · exact .inl (List.mem_append_right _ (List.mem_singleton.mpr hyx))
      · rcases hq.queued_of_dirty y hy with hy | hy
        · exact .inl (List.mem_append_left _ hy)
        · exact .inr ((List.mem_erase_of_ne hyx).mpr hy)
  · refine ⟨hq.queue_nodup, hq.processing_nodup.erase x, hq.dirty_of_queue,
      fun y hy h => hq.not_processing_of_queue y hy (List.mem_of_mem_erase h), fun y hy => ?_⟩
    -- the item is not dirty, so every dirty item is another one
    have hyx : y ≠ x := fun h => hdirty (h ▸ hy)
    exact (hq.queued_of_dirty y hy).imp_right (List.mem_erase_of_ne hyx).mpr

@[simp] lemma done_processing (q : Queue α) (x : α) :
    (q.done x).processing = q.processing.erase x := by
  unfold Queue.done
  split_ifs <;> rfl

omit [DecidableEq α] in
lemma WF.withWaiting {q : Queue α} (hq : q.WF) (waiting : List α) :
    ({ q with waiting := waiting } : Queue α).WF :=
  ⟨hq.queue_nodup, hq.processing_nodup, hq.dirty_of_queue, hq.not_processing_of_queue,
    hq.queued_of_dirty⟩

lemma WF.addRateLimited {q : Queue α} (hq : q.WF) (x : α) : (q.addRateLimited x).WF := by
  unfold Queue.addRateLimited
  split_ifs
  · exact hq
  · exact hq.withWaiting _

@[simp] lemma addRateLimited_processing (q : Queue α) (x : α) :
    (q.addRateLimited x).processing = q.processing := by
  unfold Queue.addRateLimited
  split_ifs <;> rfl

@[simp] lemma add_processing (q : Queue α) (x : α) : (q.add x).processing = q.processing := by
  unfold Queue.add
  split_ifs <;> rfl

/-! ### What the queue still holds for a worker -/

lemma Pending.add {q : Queue α} {y : α} (h : q.Pending y) (x : α) : (q.add x).Pending y := by
  unfold Queue.add
  split_ifs
  · exact h
  · exact h
  · exact h.imp_left (List.mem_append_left _)

lemma pending_add_self {q : Queue α} (hq : q.WF) (x : α) : (q.add x).Pending x := by
  unfold Queue.add
  split_ifs with hdirty hprocessing
  · exact (hq.queued_of_dirty x hdirty).imp_right .inl
  · exact .inr (.inl hprocessing)
  · exact .inl (List.mem_append_right _ (List.mem_singleton_self x))

lemma pending_of_add {q : Queue α} {x y : α} (h : (q.add x).Pending y) : q.Pending y ∨ y = x := by
  unfold Queue.add at h
  split_ifs at h
  · exact .inl h
  · exact .inl h
  · rcases h with h | h
    · rcases List.mem_append.mp h with h | h
      · exact .inl (.inl h)
      · exact .inr (List.mem_singleton.mp h)
    · exact .inl (.inr h)

lemma pending_of_foldl_add {β : Type*} (f : β → α) (q : Queue α) (l : List β) {y : α}
    (h : (l.foldl (fun q b => q.add (f b)) q).Pending y) : q.Pending y ∨ ∃ b ∈ l, y = f b := by
  induction l generalizing q with
  | nil => exact .inl h
  | cons b l ih =>
    rcases ih (q.add (f b)) h with h | ⟨b', hb', rfl⟩
    · exact (pending_of_add h).imp_right fun h => ⟨b, List.mem_cons_self, h⟩
    · exact .inr ⟨b', List.mem_cons_of_mem _ hb', rfl⟩

lemma get_pending {q q' : Queue α} {x : α} (h : q.get = some (x, q')) : q.Pending x := by
  unfold Queue.get at h
  split at h
  · cases h
  · rename_i head rest hqueue
    simp only [Option.some.injEq, Prod.mk.injEq] at h
    obtain ⟨rfl, -⟩ := h
    exact .inl (by rw [hqueue]; exact List.mem_cons_self)

lemma Pending.get {q q' : Queue α} {x y : α} (hget : q.get = some (x, q')) (h : q.Pending y) :
    q'.Pending y := by
  unfold Queue.get at hget
  split at hget
  · cases hget
  · rename_i head rest hqueue
    simp only [Option.some.injEq, Prod.mk.injEq] at hget
    obtain ⟨rfl, rfl⟩ := hget
    -- the head moves from the queue to the worker
    rcases h with h | h | h
    · rw [hqueue] at h
      rcases List.mem_cons.mp h with rfl | h
      · exact .inr (.inl (List.mem_append_right _ (List.mem_singleton_self _)))
      · exact .inl h
    · exact .inr (.inl (List.mem_append_left _ h))
    · exact .inr (.inr h)

lemma pending_of_get {q q' : Queue α} {x y : α} (hget : q.get = some (x, q'))
    (h : q'.Pending y) : q.Pending y := by
  unfold Queue.get at hget
  split at hget
  · cases hget
  · rename_i head rest hqueue
    simp only [Option.some.injEq, Prod.mk.injEq] at hget
    obtain ⟨rfl, rfl⟩ := hget
    rcases h with h | h | h
    · exact .inl (by rw [hqueue]; exact List.mem_cons_of_mem _ h)
    · rcases List.mem_append.mp h with h | h
      · exact .inr (.inl h)
      · rw [List.mem_singleton.mp h]
        exact .inl (by rw [hqueue]; exact List.mem_cons_self)
    · exact .inr (.inr h)

lemma Pending.done {q : Queue α} {x y : α} (hyx : y ≠ x) (h : q.Pending y) :
    (q.done x).Pending y := by
  unfold Queue.done
  have hprocessing : y ∈ q.processing → y ∈ (q.processing.erase x) := (List.mem_erase_of_ne hyx).mpr
  split_ifs
  · exact h.imp (List.mem_append_left _) (Or.imp_left hprocessing)
  · exact h.imp_right (Or.imp_left hprocessing)

lemma pending_of_done {q : Queue α} {x y : α} (h : (q.done x).Pending y) : q.Pending y ∨ y = x := by
  unfold Queue.done at h
  split_ifs at h
  · rcases h with h | h | h
    · rcases List.mem_append.mp h with h | h
      · exact .inl (.inl h)
      · exact .inr (List.mem_singleton.mp h)
    · exact .inl (.inr (.inl (List.mem_of_mem_erase h)))
    · exact .inl (.inr (.inr h))
  · exact .inl (h.imp_right (Or.imp_left List.mem_of_mem_erase))

lemma mem_addRateLimited_waiting (q : Queue α) (x : α) : x ∈ (q.addRateLimited x).waiting := by
  unfold Queue.addRateLimited
  split_ifs with hx
  · exact hx
  · exact List.mem_append_right _ (List.mem_singleton_self x)

lemma Pending.addRateLimited {q : Queue α} {y : α} (h : q.Pending y) (x : α) :
    (q.addRateLimited x).Pending y := by
  unfold Queue.addRateLimited
  split_ifs
  · exact h
  · exact h.imp_right (Or.imp_right (List.mem_append_left _))

lemma pending_of_addRateLimited {q : Queue α} {x y : α} (h : (q.addRateLimited x).Pending y) :
    q.Pending y ∨ y = x := by
  unfold Queue.addRateLimited at h
  split_ifs at h
  · exact .inl h
  · rcases h with h | h | h
    · exact .inl (.inl h)
    · exact .inl (.inr (.inl h))
    · rcases List.mem_append.mp h with h | h
      · exact .inl (.inr (.inr h))
      · exact .inr (List.mem_singleton.mp h)

lemma Pending.fire {q q' : Queue α} {x y : α} (hq : q.WF) (hfire : q.fire x = some q')
    (h : q.Pending y) : q'.Pending y := by
  unfold Queue.fire at hfire
  split_ifs at hfire with hx
  cases hfire
  by_cases hyx : y = x
  · subst hyx
    exact pending_add_self (hq.withWaiting _) y
  · refine Pending.add ?_ x
    exact h.imp_right (Or.imp_right (List.mem_erase_of_ne hyx).mpr)

lemma pending_of_fire {q q' : Queue α} {x y : α} (hfire : q.fire x = some q')
    (h : q'.Pending y) : q.Pending y := by
  unfold Queue.fire at hfire
  split_ifs at hfire with hx
  cases hfire
  rcases pending_of_add h with h | rfl
  · exact h.imp_right (Or.imp_right List.mem_of_mem_erase)
  · exact .inr (.inr hx)

/-! ### What the queue owes a worker -/

/-- `AddAfter`: with no delay the item is added at once; otherwise it comes back once the
delay has passed. -/
def addAfter (q : Queue α) (x : α) (duration : Int) : Queue α :=
  if duration ≤ 0 then q.add x else q.addRateLimited x

/-- The queue hands the item to a worker again: it is marked dirty, so it waits in the queue
or comes back when its worker is done with it, or it waits for its delay. -/
def Due (q : Queue α) (x : α) : Prop := x ∈ q.dirty ∨ x ∈ q.waiting

lemma mem_add_dirty (q : Queue α) (x : α) : x ∈ (q.add x).dirty := by
  unfold Queue.add
  split_ifs with h
  · exact h
  · exact List.mem_append_right _ (List.mem_singleton_self x)
  · exact List.mem_append_right _ (List.mem_singleton_self x)

lemma due_add_self (q : Queue α) (x : α) : (q.add x).Due x := .inl (mem_add_dirty q x)

lemma Due.add {q : Queue α} {y : α} (h : q.Due y) (x : α) : (q.add x).Due y := by
  unfold Queue.add
  split_ifs
  · exact h
  · exact h.imp_left (List.mem_append_left _)
  · exact h.imp_left (List.mem_append_left _)

lemma due_addRateLimited_self (q : Queue α) (x : α) : (q.addRateLimited x).Due x :=
  .inr (mem_addRateLimited_waiting q x)

lemma Due.addRateLimited {q : Queue α} {y : α} (h : q.Due y) (x : α) :
    (q.addRateLimited x).Due y := by
  unfold Queue.addRateLimited
  split_ifs
  · exact h
  · exact h.imp_right (List.mem_append_left _)

lemma due_addAfter_self (q : Queue α) (x : α) (duration : Int) : (q.addAfter x duration).Due x := by
  unfold addAfter
  split_ifs
  · exact due_add_self q x
  · exact due_addRateLimited_self q x

lemma Due.addAfter {q : Queue α} {y : α} (h : q.Due y) (x : α) (duration : Int) :
    (q.addAfter x duration).Due y := by
  unfold Queue.addAfter
  split_ifs
  · exact h.add x
  · exact h.addRateLimited x

lemma WF.addAfter {q : Queue α} (hq : q.WF) (x : α) (duration : Int) :
    (q.addAfter x duration).WF := by
  unfold Queue.addAfter
  split_ifs
  · exact hq.add x
  · exact hq.addRateLimited x

@[simp] lemma addAfter_processing (q : Queue α) (x : α) (duration : Int) :
    (q.addAfter x duration).processing = q.processing := by
  unfold addAfter
  split_ifs <;> simp

lemma Due.done {q : Queue α} {y : α} (h : q.Due y) (x : α) : (q.done x).Due y := by
  unfold Queue.done
  split_ifs <;> exact h

lemma Due.get {q q' : Queue α} {x y : α} (hget : q.get = some (x, q')) (h : q.Due y) :
    q'.Due y ∨ y = x := by
  unfold Queue.get at hget
  split at hget
  · cases hget
  · rename_i head rest hqueue
    simp only [Option.some.injEq, Prod.mk.injEq] at hget
    obtain ⟨rfl, rfl⟩ := hget
    by_cases hyx : y = head
    · exact .inr hyx
    · exact .inl (h.imp_left (List.mem_erase_of_ne hyx).mpr)

lemma Due.fire {q q' : Queue α} {x y : α} (hfire : q.fire x = some q') (h : q.Due y) :
    q'.Due y := by
  unfold Queue.fire at hfire
  split_ifs at hfire
  cases hfire
  by_cases hyx : y = x
  · subst hyx
    exact due_add_self _ y
  · refine Due.add ?_ x
    exact h.imp_right (List.mem_erase_of_ne hyx).mpr

/-! ### The workers that hold the items -/

lemma perm_eraseIdx_erase {β : Type*} (key : β → α) {workers : List β} {processing : List α}
    (h : (workers.map key).Perm processing) {i : Nat} (hi : i < workers.length) :
    ((workers.eraseIdx i).map key).Perm (processing.erase (key workers[i])) := by
  rw [← List.eraseIdx_map]
  have hlen : i < (workers.map key).length := by simpa using hi
  have herase := List.erase_getElem hlen
  rw [List.getElem_map] at herase
  exact herase.symm.trans (h.erase _)

/-! ### Queues that only grow -/

/-- `q'` is `q` after some `Add`s: a worker has the same items, the shape is kept, and what the
queue held for a worker it still holds. -/
structure Grows (q q' : Queue α) : Prop where
  processing_eq : q'.processing = q.processing
  wf : q.WF → q'.WF
  pending : q.WF → ∀ x, q.Pending x → q'.Pending x

omit [DecidableEq α] in
@[refl] lemma Grows.refl (q : Queue α) : Grows q q := ⟨rfl, id, fun _ _ h => h⟩

omit [DecidableEq α] in
@[trans] lemma Grows.trans {q q' q'' : Queue α} (h : Grows q q') (h' : Grows q' q'') :
    Grows q q'' :=
  ⟨h'.processing_eq.trans h.processing_eq, fun hq => h'.wf (h.wf hq),
    fun hq x hx => h'.pending (h.wf hq) x (h.pending hq x hx)⟩

lemma grows_add (q : Queue α) (x : α) : Grows q (q.add x) :=
  ⟨add_processing q x, fun hq => hq.add x, fun _ _ h => h.add x⟩

lemma grows_foldl_add {β : Type*} (f : β → α) (q : Queue α) (l : List β) :
    Grows q (l.foldl (fun q x => q.add (f x)) q) :=
  List.foldlRecOn l _ (Grows.refl q) fun _ h x _ => h.trans (grows_add _ (f x))

lemma grows_fire {q q' : Queue α} {x : α} (h : q.fire x = some q') : Grows q q' := by
  have hpending : q.WF → ∀ y, q.Pending y → q'.Pending y := fun hq _ hy => hy.fire hq h
  unfold Queue.fire at h
  split_ifs at h
  cases h
  exact ⟨add_processing _ x, fun hq => (hq.withWaiting _).add x, hpending⟩

end Queue

end WorkQueue
