import LogEgress.Proofs.Json.Value
import LogEgress.Rpc.Message

set_option autoImplicit false

/-! # Messages are read as they were written

Each message between scheduler and adapter is read from its JSON as the message that was written,
whatever the texts in it.
-/

namespace LogEgress

open Json (Value)

/-! ## Written messages -/

theorem Binding.plain_write (b : Binding) : b.write.Plain := by
  refine Value.plain_ofMembers fun m hm => ?_
  simp only [List.mem_cons, List.not_mem_nil, or_false] at hm
  rcases hm with rfl | rfl | rfl <;> exact .string _

theorem Binding.read_write (b : Binding) : Binding.read b.write = .ok b := by
  have hfields : Json.FieldReader.record fields {} b.write =
      .ok ⟨some (String.ofList b.appId.toList), some (String.ofList b.hostname.toList),
        some (String.ofList b.drain.toList)⟩ := rfl
  unfold Binding.read
  rw [hfields, String.ofList_toList, String.ofList_toList, String.ofList_toList]
  rfl

namespace Rpc

theorem plain_writeEmpty : writeEmpty.Plain :=
  .object (fun _ hm => absurd hm List.not_mem_nil) fun _ hm => absurd hm List.not_mem_nil

theorem plain_writeRequest (b : Binding) : (writeRequest b).Plain := by
  refine Value.plain_ofMembers fun m hm => ?_
  rw [List.mem_singleton.1 hm]
  exact b.plain_write

theorem plain_writeBindings (bs : List Binding) : (writeBindings bs).Plain := by
  refine Value.plain_ofMembers fun m hm => ?_
  rw [List.mem_singleton.1 hm]
  exact Value.plain_array_map Binding.plain_write bs

theorem Status.plain_write (s : Status) : s.write.Plain := by
  refine Value.plain_ofMembers fun m hm => ?_
  simp only [List.mem_cons, List.not_mem_nil, or_false] at hm
  rcases hm with rfl | rfl <;> exact .string _

/-! ## Reading them -/

theorem readEmpty_writeEmpty : readEmpty writeEmpty = .ok () := rfl

theorem readRequest_writeRequest (b : Binding) : readRequest (writeRequest b) = .ok b := by
  have hfields : Json.FieldReader.record requestFields none (writeRequest b) =
      (Binding.read b.write).map some := by
    show (Binding.read b.write >>= fun b => .ok (some b)) >>= _ = _
    cases Binding.read b.write <;> rfl
  unfold readRequest
  rw [hfields, Binding.read_write]
  rfl

theorem readBindings_writeBindings (bs : List Binding) :
    readBindings (writeBindings bs) = .ok bs := by
  have hlist : Json.Reader.list Binding.read (.array (bs.map Binding.write)) = .ok bs := by
    rw [Json.Reader.list_map Binding.read_write, List.map_id']
  have hfields : Json.FieldReader.record bindingsFields none (writeBindings bs) =
      .ok (some bs) := by
    show (Json.Reader.list Binding.read _ >>= fun bs => .ok (some bs)) >>= _ = _
    rw [hlist]
    rfl
  unfold readBindings
  rw [hfields]
  rfl

theorem Status.read_write (s : Status) : Status.read s.write = .ok s := by
  have hfields : Json.FieldReader.record fields {} s.write =
      .ok ⟨some (String.ofList s.code.toList), some (String.ofList s.message.toList)⟩ := rfl
  unfold Status.read
  rw [hfields, String.ofList_toList, String.ofList_toList]
  rfl

end Rpc

end LogEgress
