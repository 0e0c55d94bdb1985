import Getupnet.IspCore.ProvisioningJob
import Getupnet.Python.Json

open python

namespace getupnet.isp_core

/-- `get_payload` of a job with this text in its `payload_json`: what the text says, or
an empty dictionary where it is no JSON. -/
def IspProvisioningJob.get_payload (float : String → Value) (payload_json : CharField) : Value :=
  (json.loads float (textOr payload_json "{}")).getD (.dict [])

/-- The text that `_queue_job` stores for a payload. -/
def IspSubscription.payload_json (payload : Value) : CharField := some (json.dumps (payload.orElse (.dict [])))

theorem IspProvisioningJob.get_payload_dumps (float : String → Value) {payload : Value}
    (h : json.IsJson payload) :
    IspProvisioningJob.get_payload float (some (json.dumps payload)) = payload := by
  have htext : textOr (some (json.dumps payload)) "{}" = json.dumps payload := by
    unfold textOr
    split
    · rfl
    · rename_i hempty
      -- no value is written as an empty text
      obtain ⟨char, text, htext, -⟩ := json.encode_head payload h
      have hlist := congrArg String.toList (of_not_not fun hne => hempty (bne_iff_ne.mpr hne))
      rw [json.dumps, String.toList_ofList, htext] at hlist
      cases hlist
  rw [IspProvisioningJob.get_payload, htext, json.loads_dumps float h, Option.getD_some]

/-- A job reads the payload that it was queued with, whatever it holds: lists and
dictionaries in any depth, with any texts and numbers in them. An empty one is read as an
empty dictionary. -/
theorem IspProvisioningJob.get_payload_queue_job (float : String → Value) {payload : Value}
    (h : json.IsJson payload) :
    IspProvisioningJob.get_payload float (IspSubscription.payload_json payload) = payload.orElse (.dict []) := by
  apply IspProvisioningJob.get_payload_dumps
  unfold Value.orElse
  split
  · exact h
  · exact ⟨List.nodup_nil, trivial⟩

/-- A payload with a list in it and a text beyond ASCII. -/
def notice : Value :=
  .dict [("note", .str "avería \"nodo 3\"\n😀"), ("jobs", .list [.int (-12), .none, .bool true, .dict []])]

theorem IspProvisioningJob.get_payload_queue_job_notice :
    IspProvisioningJob.get_payload (fun _ => .none) (IspSubscription.payload_json notice) = notice := by
  have hjson : json.IsJson notice :=
    ⟨List.nodup_cons.mpr ⟨by simp, List.nodup_singleton _⟩, trivial,
      ⟨trivial, trivial, trivial, ⟨List.nodup_nil, trivial⟩, trivial⟩, trivial⟩
  exact IspProvisioningJob.get_payload_queue_job (fun _ => .none) hjson

end getupnet.isp_core
