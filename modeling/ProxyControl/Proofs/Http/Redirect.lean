import ProxyControl.Http.Redirect
import ProxyControl.Proofs.Outcome

namespace ProxyControl.Http

/-- How a redirection fails to lead anywhere: it names no URL, or no request can be made from what it names. -/
inductive Astray : Failure → Prop
  | broken (message : Text) : Astray (.broken .remoteProtocolError message)
  | fault (kind : Fault) (message : Text) : Astray (.fault kind message)

namespace Url

variable {url target : Url} {location : Text} {failure : Failure}

theorem astray_of_url {α : Type} {outcome : Except UrlError α}
    (fails : outcome.mapError UrlError.failure = .error failure) : Astray failure := by
  obtain ⟨error, _, rfl⟩ := mapError_eq_error.mp fails
  cases error with
  | unencodable e => exact .fault _ _
  | _ => exact .fault _ _

theorem astray_of_ofLocation (fails : ofLocation location = .error failure) : Astray failure := by
  unfold ofLocation at fails
  split at fails
  · cases fails
  · cases fails
    exact .fault _ _
  · cases fails
    exact .broken _

theorem astray_of_hostName (fails : url.hostName = .error failure) : Astray failure := by
  unfold hostName at fails
  split at fails
  · obtain ⟨_, _, rfl⟩ := mapError_eq_error.mp fails
    exact .fault _ _
  · cases fails

theorem astray_of_withHostOf (fails : url.withHostOf target = .error failure) : Astray failure := by
  unfold withHostOf at fails
  split at fails
  · cases fails
  · rcases bind_eq_error.mp fails with unnamed | ⟨host, _, fails⟩
    · exact astray_of_hostName unnamed
    · split at fails
      · rcases bind_eq_error.mp fails with unnamed | ⟨_, _, fails⟩
        · exact astray_of_hostName unnamed
        · exact astray_of_url fails
      · cases fails

theorem astray_of_joinedTo (fails : url.joinedTo target = .error failure) : Astray failure := by
  unfold joinedTo at fails
  split at fails
  · exact astray_of_url fails
  · cases fails

theorem astray_of_withFragmentOf (fails : url.withFragmentOf target = .error failure) : Astray failure := by
  unfold withFragmentOf at fails
  dsimp only at fails
  split at fails
  · cases fails
  · exact astray_of_url fails

theorem astray_of_next (fails : url.next location = .error failure) : Astray failure := by
  unfold next at fails
  rcases bind_eq_error.mp fails with misread | ⟨found, _, fails⟩
  · exact astray_of_ofLocation misread
  rcases bind_eq_error.mp fails with unhosted | ⟨hosted, _, fails⟩
  · exact astray_of_withHostOf unhosted
  rcases bind_eq_error.mp fails with unjoined | ⟨joined, _, fails⟩
  · exact astray_of_joinedTo unjoined
  · exact astray_of_withFragmentOf fails

theorem astray_of_hasOriginOf (fails : url.hasOriginOf target = .error failure) : Astray failure := by
  unfold hasOriginOf at fails
  split at fails
  · rcases bind_eq_error.mp fails with unnamed | ⟨_, _, fails⟩
    · exact astray_of_hostName unnamed
    · rcases bind_eq_error.mp fails with unnamed | ⟨_, _, impossible⟩
      · exact astray_of_hostName unnamed
      · cases impossible
  · rcases bind_eq_error.mp fails with unnamed | ⟨_, _, fails⟩
    · exact astray_of_hostName unnamed
    · rcases bind_eq_error.mp fails with unnamed | ⟨_, _, impossible⟩
      · exact astray_of_hostName unnamed
      · cases impossible

theorem astray_of_checkNext (fails : url.checkNext target = .error failure) : Astray failure := by
  unfold checkNext at fails
  rcases bind_eq_error.mp fails with unnamed | ⟨alike, _, fails⟩
  · exact astray_of_hasOriginOf unnamed
  · split at fails
    · rcases bind_eq_error.mp fails with bare | ⟨_, _, impossible⟩
      · obtain ⟨_, _, rfl⟩ := mapError_eq_error.mp bare
        exact .fault _ _
      · cases impossible
    · cases fails

end Url

end ProxyControl.Http
