import TypedJson.Proofs.Descriptor.Parts

/-!
Instances of descriptors: the parameters that stand for something are replaced, and the others
stay. Where every parameter stands for something this is binding, which fails otherwise.
-/

namespace TypedJson.Descriptor

mutual
/-- The descriptor with its parameters replaced, as far as they stand for something. -/
def instantiate (b : Bindings) : Descriptor → Descriptor
  | .var name => (b.lookup name).getD (.var name)
  | .list item => .list (instantiate b item)
  | .map key value => .map (instantiate b key) (instantiate b value)
  | .generic name arguments => .generic name (instantiateArguments b arguments)
  | d => d

/-- The arguments with the parameters inside them replaced. -/
def instantiateArguments (b : Bindings)
    : List (String × Descriptor) → List (String × Descriptor)
  | [] => []
  | (name, argument) :: rest => (name, instantiate b argument) :: instantiateArguments b rest
end

theorem instantiateArguments_eq_map (b : Bindings) (arguments : List (String × Descriptor))
    : instantiateArguments b arguments
        = arguments.map fun argument => (argument.1, argument.2.instantiate b) := by
  induction arguments with
  | nil => rfl
  | cons argument rest ih => rw [instantiateArguments, ih, List.map_cons]

/-- Without bindings every parameter stays, by induction on the descriptor. -/
theorem instantiate_nil (d : Descriptor) : d.instantiate [] = d := by
  induction d using byParts with
  | step d ih =>
      cases d with
      | list item => rw [instantiate, ih item (by simp [parts])]
      | map key value =>
          rw [instantiate, ih key (by simp [parts]), ih value (by simp [parts])]
      | generic name arguments =>
          have same : ∀ argument ∈ arguments,
              (argument.1, argument.2.instantiate []) = argument := by
            intro argument mem
            rw [ih argument.2 (List.mem_map_of_mem mem)]
          rw [instantiate, instantiateArguments_eq_map, List.map_congr_left same, List.map_id']
      | _ => rfl

/-- What binding gives is the instance, by induction on the descriptor. -/
theorem instantiate_of_bind {b : Bindings} {d bound : Descriptor} (h : bind b d = .ok bound)
    : d.instantiate b = bound := by
  induction d using byParts generalizing bound with
  | step d ih =>
      cases d with
      | var name => rw [instantiate, bind_var_eq_ok_iff.mp h, Option.getD_some]
      | list item =>
          obtain ⟨item', hi, rfl⟩ := bind_list_eq_ok_iff.mp h
          rw [instantiate, ih item (by simp [parts]) hi]
      | map key value =>
          obtain ⟨key', value', hk, hv, rfl⟩ := bind_map_eq_ok_iff.mp h
          rw [instantiate, ih key (by simp [parts]) hk, ih value (by simp [parts]) hv]
      | generic name arguments =>
          obtain ⟨arguments', ha, rfl⟩ := bind_generic_eq_ok_iff.mp h
          rw [instantiate, instantiateArguments_eq_map]
          refine congrArg (generic name) ?_
          have each : List.Forall₂ (fun a b => a = b)
              (arguments.map fun argument => (argument.1, argument.2.instantiate b))
              arguments' := by
            rw [List.forall₂_map_left_iff]
            refine forall₂_imp_of_mem (bindArguments_eq_ok_iff.mp ha) ?_
            rintro argument mem bound _ ⟨hname, hd⟩
            exact Prod.ext hname.symm (ih argument.2 (List.mem_map_of_mem mem) hd)
          exact List.forall₂_eq_eq_eq ▸ each
      | _ => exact Except.ok.inj h

theorem instantiateArguments_of_bindArguments {b : Bindings}
    {arguments bound : List (String × Descriptor)} (h : bindArguments b arguments = .ok bound)
    : instantiateArguments b arguments = bound := by
  have hb : bind b (.generic "" arguments) = .ok (.generic "" bound) :=
    bind_generic_eq_ok_iff.mpr ⟨bound, h, rfl⟩
  exact (generic.inj (instantiate_of_bind hb)).2

end TypedJson.Descriptor
