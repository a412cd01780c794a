import DockerBastion.System.State

/-!
# What an action leaves alone

Most actions are about one part of the state.  The lemmas about connections,
docker and the refreshing pass need to look only at the actions that touch their
part.
-/

namespace DockerBastion.System

def Action.touchesConns : Action → Bool
  | .lookupUser _ _ _ _ | .checkContainer _ _ | .disconnect _ => true
  | _ => false

def Action.touchesDocker : Action → Bool
  | .createContainer _ _ | .insertCreated _ _ _ | .deleteContainer _ _ => true
  | _ => false

def Action.touchesListing : Action → Bool
  | .listContainers _ | .deleteStale _ => true
  | _ => false

structure Frame (a : Action) (s s' : State) : Prop where
  up : s'.up = s.up
  conns : a.touchesConns = false → s'.conns = s.conns
  docker : a.touchesDocker = false → s'.docker = s.docker ∧ s'.creating = s.creating
  listing : a.touchesListing = false → s'.listing = s.listing

variable {env : Env} {s : State}

private theorem Frame.refl (a : Action) : Frame a s s :=
  ⟨rfl, fun _ => rfl, fun _ => ⟨rfl, rfl⟩, fun _ => rfl⟩

private theorem Frame.of_db (a : Action) (db : Store) : Frame a s { s with db := db } :=
  ⟨rfl, fun _ => rfl, fun _ => ⟨rfl, rfl⟩, fun _ => rfl⟩

theorem frame_perform (a : Action) : Frame a s (perform env s a) := by
  cases a with
  | login body fault => exact .refl _
  | openChannel k type acceptFails => exact .refl _
  | addUser body salt fault now => exact .of_db _ _
  | deleteUser id faults => exact .of_db _ _
  | grant form fault now => exact .of_db _ _
  | revoke id fault => exact .of_db _ _
  | chPasswd session authFault body salt fault =>
      simp only [perform, changePassword]
      split
      · exact .refl _
      · split
        · exact .refl _
        · exact .of_db _ _
  | createContainer body outcome =>
      refine ⟨?_, fun _ => ?_, nofun, fun _ => ?_⟩ <;>
        simp only [perform, createContainer] <;> split <;> (try split) <;> rfl
  | insertCreated i fault now =>
      refine ⟨?_, fun _ => ?_, nofun, fun _ => ?_⟩ <;>
        simp only [perform, insertCreatedAt] <;> split <;> (try split) <;> rfl
  | deleteContainer id fault =>
      refine ⟨?_, fun _ => ?_, nofun, fun _ => ?_⟩ <;>
        simp only [perform, deleteContainer] <;> split <;> rfl
  | deleteRemoved i fault =>
      simp only [perform, deleteRemovedAt]
      split
      · exact .refl _
      · exact ⟨rfl, fun _ => rfl, fun _ => ⟨rfl, rfl⟩, fun _ => rfl⟩
  | listContainers fault =>
      refine ⟨?_, fun _ => ?_, fun _ => ⟨?_, ?_⟩, nofun⟩ <;>
        simp only [perform, listContainers] <;> split <;> rfl
  | deleteStale fault =>
      refine ⟨?_, fun _ => ?_, fun _ => ⟨?_, ?_⟩, nofun⟩ <;>
        simp only [perform, deleteStale] <;> split <;> rfl
  | lookupUser k user pass faults =>
      refine ⟨?_, nofun, fun _ => ⟨?_, ?_⟩, fun _ => ?_⟩ <;>
        simp only [perform, lookupUser] <;> split <;> (try split) <;> rfl
  | checkContainer k faults =>
      refine ⟨?_, nofun, fun _ => ⟨?_, ?_⟩, fun _ => ?_⟩ <;>
        simp only [perform, checkConn] <;> split <;> (try split) <;> rfl
  | disconnect k => exact ⟨rfl, nofun, fun _ => ⟨rfl, rfl⟩, fun _ => rfl⟩

end DockerBastion.System
