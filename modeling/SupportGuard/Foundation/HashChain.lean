import Mathlib.Data.List.Forall2
import Mathlib.Data.List.Induction

/-! # Hash chains

Each record is hashed together with the digest of the record before it. The last
digest commits to every record, as long as the hash has no collision among the
messages that occur and never yields the digest the chain starts from. -/

namespace Foundation

namespace HashChain

variable {Record Message Digest : Type} (hash : Message → Digest)
  (message : Record → Digest → Message)

/-- The digest after a list of records. -/
def head (start : Digest) (records : List Record) : Digest :=
  records.foldl (fun parent record => hash (message record parent)) start

/-- The messages hashed on the way, in order. -/
def messages : Digest → List Record → List Message
  | _, [] => []
  | parent, record :: rest =>
      message record parent :: messages (hash (message record parent)) rest

@[simp] theorem head_append_singleton (start : Digest) (records : List Record)
    (record : Record) :
    head hash message start (records ++ [record]) =
      hash (message record (head hash message start records)) := by
  simp [head]

theorem messages_append_singleton (start : Digest) (records : List Record)
    (record : Record) :
    messages hash message start (records ++ [record]) =
      messages hash message start records ++
        [message record (head hash message start records)] := by
  induction records generalizing start with
  | nil => rfl
  | cons first rest induction =>
      simp only [List.cons_append, messages, induction]
      rfl

/-- No two of the given messages collide. -/
def CollisionFree (occurring : List Message) : Prop :=
  ∀ left ∈ occurring, ∀ right ∈ occurring, hash left = hash right → left = right

/-- No given message hashes to `start`. -/
def Avoids (start : Digest) (occurring : List Message) : Prop :=
  ∀ one ∈ occurring, hash one ≠ start

variable {hash message}

/-- Two chains from one start with the same final digest agree record by record,
where `same` is what equal messages tell about their records. The induction
runs from the last record backwards. -/
theorem forall₂_of_head_eq {same : Record → Record → Prop} {start : Digest}
    (separates : ∀ left leftParent right rightParent,
      message left leftParent = message right rightParent →
        same left right ∧ leftParent = rightParent)
    {occurring : List Message} (collisionFree : CollisionFree hash occurring)
    (avoids : Avoids hash start occurring) (left right : List Record)
    (leftOccurs : messages hash message start left ⊆ occurring)
    (rightOccurs : messages hash message start right ⊆ occurring)
    (heads : head hash message start left = head hash message start right) :
    List.Forall₂ same left right := by
  induction left using List.reverseRecOn generalizing right with
  | nil =>
      induction right using List.reverseRecOn with
      | nil => exact .nil
      | append_singleton rest last _ =>
          rw [head_append_singleton] at heads
          rw [messages_append_singleton] at rightOccurs
          exact absurd heads.symm (avoids _ (rightOccurs (by simp)))
  | append_singleton rest last induction =>
      induction right using List.reverseRecOn with
      | nil =>
          rw [head_append_singleton] at heads
          rw [messages_append_singleton] at leftOccurs
          exact absurd heads (avoids _ (leftOccurs (by simp)))
      | append_singleton otherRest otherLast _ =>
          rw [head_append_singleton, head_append_singleton] at heads
          rw [messages_append_singleton] at leftOccurs rightOccurs
          have equal := collisionFree _ (leftOccurs (by simp)) _
            (rightOccurs (by simp)) heads
          rcases separates _ _ _ _ equal with ⟨lastSame, parents⟩
          have restSame := induction otherRest
            (List.Subset.trans (List.subset_append_left _ _) leftOccurs)
            (List.Subset.trans (List.subset_append_left _ _) rightOccurs) parents
          exact List.rel_append restSame (.cons lastSame .nil)

/-- Strengthen a relation between two lists using membership. -/
theorem forall₂_of_mem {related stronger : Record → Record → Prop}
    {left right : List Record} (holds : List.Forall₂ related left right)
    (strengthen : ∀ first ∈ left, ∀ second ∈ right, related first second →
      stronger first second) : List.Forall₂ stronger left right := by
  induction holds with
  | nil => exact .nil
  | cons relation _ induction =>
      exact .cons (strengthen _ (by simp) _ (by simp) relation)
        (induction fun first firstMember second secondMember =>
          strengthen first (List.mem_cons_of_mem _ firstMember) second
            (List.mem_cons_of_mem _ secondMember))

end HashChain

end Foundation
