import DockerBastion.System.Frame

/-!
# What an event does to docker

Ids stay issued and none is given twice, so a container that is gone does not
come back.  The requests to `CreateContainer` that are under way hold ids that
docker has issued.
-/

namespace DockerBastion.System

open Foundation Manager

def newId : Event → Option Bytes
  | .dockerCreate id _ => some id
  | .act (.createContainer _ outcome) => (dockerCreate outcome).toOption
  | _ => none

structure DockerEffect (new : Option Bytes) (s s' : State) : Prop where
  follows : s.docker.Follows s'.docker
  issued : ∀ id ∈ s'.docker.issued, id ∈ s.docker.issued ∨ new = some id
  creating : ∀ request ∈ s'.creating,
    request ∈ s.creating ∨ request.1 ∈ s'.docker.issued

variable {env : Env} {s s' : State}

namespace DockerEffect

private theorem of_eq {new : Option Bytes} (hids : s'.docker.ids = s.docker.ids)
    (hissued : s'.docker.issued = s.docker.issued)
    (hcreating : ∀ request ∈ s'.creating, request ∈ s.creating) :
    DockerEffect new s s' :=
  ⟨.of_eq hids hissued, fun _ h => .inl (hissued ▸ h), fun _ h => .inl (hcreating _ h)⟩

private theorem same {new : Option Bytes} (hdocker : s'.docker = s.docker)
    (hcreating : s'.creating = s.creating) : DockerEffect new s s' :=
  of_eq (by rw [hdocker]) (by rw [hdocker]) (by simp [hcreating])

private theorem created {id name : Bytes} {docker : Docker}
    (h : s.docker.create id name = some docker) (hdocker : s'.docker = docker)
    (hcreating : ∀ request ∈ s'.creating, request ∈ s.creating ∨ request.1 = id) :
    DockerEffect (some id) s s' := by
  subst hdocker
  obtain ⟨-, -, -, hissued⟩ := Docker.create_eq_some h
  refine ⟨Docker.follows_create h, ?_, ?_⟩
  · intro other hother
    rw [hissued] at hother
    rcases List.mem_cons.mp hother with rfl | hold
    · exact .inr rfl
    · exact .inl hold
  · intro request hrequest
    rcases hcreating request hrequest with hold | heq
    · exact .inl hold
    · exact .inr (by simp [hissued, heq])

end DockerEffect

private theorem perform_docker (a : Action) :
    DockerEffect (newId (.act a)) s (perform env s a) := by
  cases htouches : a.touchesDocker with
  | false =>
      obtain ⟨hdocker, hcreating⟩ := (frame_perform a).docker htouches
      exact .same hdocker hcreating
  | true =>
      cases a with
      | createContainer body outcome =>
          simp only [perform, createContainer]
          split
          · rename_i name userId cid _ hcid
            split
            · exact .same rfl rfl
            · rename_i docker hcreate
              have hnew : newId (.act (.createContainer body outcome)) = some cid := by
                simp [newId, hcid, Except.toOption]
              rw [hnew]
              refine .created hcreate rfl ?_
              intro request hrequest
              rcases List.mem_append.mp hrequest with hold | hlast
              · exact .inl hold
              · obtain rfl := List.mem_singleton.mp hlast
                exact .inr rfl
          · exact .same rfl rfl
      | insertCreated i fault now =>
          simp only [perform, insertCreatedAt]
          split
          · exact .same rfl rfl
          · split
            · exact .of_eq rfl rfl fun _ h => List.mem_of_mem_eraseIdx h
            · exact .of_eq (Docker.start_ids _ _) rfl
                fun _ h => List.mem_of_mem_eraseIdx h
      | deleteContainer id fault =>
          simp only [perform, deleteContainer]
          split
          · exact ⟨Docker.follows_remove _ _, fun _ h => .inl h, fun _ h => .inl h⟩
          · exact .same rfl rfl
      | _ => cases htouches

theorem step_docker (e : Event) : DockerEffect (newId e) s (step env s e) := by
  cases e with
  | stop => exact .of_eq rfl rfl (by simp [step, State.stop, State.initial])
  | start faults now =>
      simp only [step]
      split
      · exact .same rfl rfl
      · split <;> exact .same rfl rfl
  | dockerCreate id name =>
      simp only [step]
      split
      · exact .same rfl rfl
      · exact .created ‹_› rfl fun _ h => .inl h
  | dockerRename id name =>
      simp only [step]
      split
      · exact .same rfl rfl
      · rename_i docker hrename
        exact .of_eq (Docker.rename_eq_some hrename).1 (Docker.rename_eq_some hrename).2
          fun _ h => h
  | dockerRemove id =>
      exact ⟨Docker.follows_remove _ _, fun _ h => .inl h, fun _ h => .inl h⟩
  | act a =>
      simp only [step]
      split
      · exact perform_docker a
      · exact .same rfl rfl

theorem issued_run {id : Bytes} (h : id ∈ s.docker.issued) (events : List Event) :
    id ∈ (run (step env) s events).docker.issued :=
  run_invariant (I := fun s : State => id ∈ s.docker.issued)
    (fun _ e hid => (step_docker e).follows.issued id hid) h events

theorem gone_run {id : Bytes} (hissued : id ∈ s.docker.issued)
    (hgone : id ∉ s.docker.ids) (events : List Event) :
    id ∉ (run (step env) s events).docker.ids := by
  have hstep : ∀ (s : State) (e : Event),
      id ∈ s.docker.issued ∧ id ∉ s.docker.ids →
        id ∈ (step env s e).docker.issued ∧ id ∉ (step env s e).docker.ids := by
    rintro s e ⟨hissued, hgone⟩
    have heffect : s.docker.Follows (step env s e).docker := (step_docker e).follows
    refine ⟨heffect.issued id hissued, fun hback => ?_⟩
    rcases heffect.ids id hback with hold | hnew
    · exact hgone hold
    · exact hnew hissued
  exact (run_invariant hstep ⟨hissued, hgone⟩ events).2

end DockerBastion.System
