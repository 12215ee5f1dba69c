import Aico.Schema.Database

/-!
# Company scope

Every founder operation runs for a `RequestActor` and inside the company the
actor belongs to. An actor without a company gets the answer an absent resource
gets.
-/

namespace Aico

/-- The founder a request is made by. -/
structure RequestActor where
  id : Uuid
  companyId : Option Uuid

def tenantResourceNotFound : DomainError where
  status := 404
  code := "resource_not_found"
  title := "Resource not found"
  detail := "The requested resource does not exist."

def companyScopeFromActor (actor : RequestActor) : Op Uuid :=
  Prog.require actor.companyId (.domain tenantResourceNotFound)

def buildObjectKey (companyId : Uuid) (purpose : ObjectPurpose) (objectId : Uuid)
    (version : ℕ) : JsString :=
  js "companies/" ++ companyId.text ++ js "/" ++ js purpose.text ++ js "/" ++
    objectId.text ++ js "/" ++ JsString.decimal version

def objectKeyScope (companyId : Uuid) (purpose : ObjectPurpose) : JsString :=
  js "companies/" ++ companyId.text ++ js "/" ++ js purpose.text ++ js "/"

theorem objectKeyScope_isPrefix (companyId : Uuid) (purpose : ObjectPurpose)
    (objectId : Uuid) (version : ℕ) :
    ( objectKeyScope companyId purpose) <+: buildObjectKey companyId purpose objectId version := by
  refine ⟨objectId.text ++ js "/" ++ JsString.decimal version, ?_⟩
  simp [objectKeyScope, buildObjectKey, List.append_assoc]

/-- The separator of the parts of a key. -/
def slash : UInt16 := 0x2F

theorem slash_notMem_text (u : Uuid) : slash ∉ u.text := by
  intro hmem
  rcases Uuid.mem_text hmem with ⟨d, hd, heq⟩ | heq
  · interval_cases d <;> exact absurd heq (by decide)
  · exact absurd heq (by decide)

theorem slash_notMem_purpose (purpose : ObjectPurpose) : slash ∉ js purpose.text := by
  cases purpose <;> decide

theorem objectId_eq_of_buildObjectKey_eq {companyId companyId' : Uuid}
    {purpose purpose' : ObjectPurpose} {objectId objectId' : Uuid} {version version' : ℕ}
    (h : buildObjectKey companyId purpose objectId version =
      buildObjectKey companyId' purpose' objectId' version') : objectId = objectId' := by
  have hparts : ∀ c p o v, buildObjectKey c p o v =
      js "companies/" ++ (c.text ++ slash :: (js p.text ++ slash ::
        (o.text ++ slash :: JsString.decimal v))) := by
    intro c p o v
    have hslash : js "/" = [slash] := by decide
    simp [buildObjectKey, hslash, List.append_assoc]
  rw [hparts, hparts, List.append_cancel_left_eq] at h
  obtain ⟨-, h⟩ := JsString.append_cons_inj (slash_notMem_text _) (slash_notMem_text _) h
  obtain ⟨-, h⟩ := JsString.append_cons_inj (slash_notMem_purpose _) (slash_notMem_purpose _) h
  obtain ⟨h, -⟩ := JsString.append_cons_inj (slash_notMem_text _) (slash_notMem_text _) h
  exact Uuid.text_injective h

end Aico
