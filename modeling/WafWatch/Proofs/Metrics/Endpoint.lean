import WafWatch.Metrics.Endpoint
import WafWatch.Proofs.Net.Address

/-!
This module contains at which addresses the metrics can be served: at every one that is set as in the address of a
socket, and at the port that is set.
-/

namespace WafWatch

open Net Text

/--
The address of a host as it stands before a port: an address of the sixth version has colons of its own and stands in
brackets.
-/
def Net.IpAddress.hostText : IpAddress → List Char
  | .v4 octets => (IpAddress.v4 octets).render
  | .v6 groups => '[' :: (IpAddress.v6 groups).render ++ [']']

theorem Net.IpAddress.hostText_append_port (ip : IpAddress) (port : UInt16) :
    ip.hostText ++ ':' :: showNat port.toNat = ({ ip, port } : SocketAddress).render := by
  cases ip <;> simp [hostText, SocketAddress.render]

namespace MetricsSettings

/--
The settings for serving the metrics at a host and a port.
-/
def listeningOn (s : MetricsSettings) (host : List Char) (port : UInt16) : MetricsSettings :=
  { s with listenAddr := String.ofList host, port := port.toNat, endpoint := metricsPath }

theorem toList_listenText (s : MetricsSettings) :
    s!"{s.listenAddr}:{s.port}".toList = s.listenAddr.toList ++ ':' :: showNat s.port := by
  simp [showNat, toString, Nat.toList_repr]

/--
The settings give an address exactly if the endpoint is the one of the metrics and the host and the port are read as
that address.
-/
theorem address_eq_ok_iff {s : MetricsSettings} {address : SocketAddress}
    : s.address = .ok address
        ↔ s.endpoint = metricsPath
            ∧ SocketAddress.read? (s.listenAddr.toList ++ ':' :: showNat s.port) = some address := by
  unfold MetricsSettings.address
  rw [toList_listenText]
  split
  . next h => simp [h]
  . next h =>
    rw [Classical.not_not] at h
    cases SocketAddress.read? (s.listenAddr.toList ++ ':' :: showNat s.port) <;> simp [h]

theorem address_eq_badAddress {s : MetricsSettings} (hendpoint : s.endpoint = metricsPath)
    (hread : SocketAddress.read? (s.listenAddr.toList ++ ':' :: showNat s.port) = none)
    : s.address = .error .badAddress := by
  unfold MetricsSettings.address
  rw [toList_listenText, hread, if_neg (not_not_intro hendpoint)]

variable (s : MetricsSettings)

theorem address_hostText (ip : IpAddress) (port : UInt16) :
    (s.listeningOn ip.hostText port).address = .ok { ip, port } := by
  apply address_eq_ok_iff.mpr
  refine ⟨rfl, ?_⟩
  rw [listeningOn, String.toList_ofList, IpAddress.hostText_append_port]
  exact read?_render fun _ _ => rfl

theorem address_bare (groups : Vector UInt16 8) (port : UInt16) :
    (s.listeningOn (IpAddress.v6 groups).render port).address = .error .badAddress := by
  apply address_eq_badAddress rfl
  rw [listeningOn, String.toList_ofList]
  exact read?_renderSix_eq_none _ _

/--
Colons of the host are not taken for the one before the port.
-/
theorem port_of_address {address : SocketAddress} (h : s.address = .ok address) : address.port.toNat = s.port := by
  obtain ⟨-, hread⟩ := address_eq_ok_iff.mp h
  obtain ⟨digits, hsuffix, hdigits, hvalue⟩ := port_of_read? hread
  have hport : digits = showNat s.port :=
    eq_of_colon_suffix hsuffix (List.suffix_append _ _) hdigits (isDigits_showNat s.port)
  rw [hvalue, hport, ofDigits_showNat]

/--
The metrics can be served at every address, of either version, and every port. In the sixth version the address is in
brackets, and without them it is refused. Whatever the host, the port is the one that is set.
-/
theorem serves_every_address :
    (∀ ip port, (s.listeningOn ip.hostText port).address = .ok { ip, port })
      ∧ (∀ groups port, (s.listeningOn (IpAddress.v6 groups).render port).address = .error .badAddress)
      ∧ ∀ address, s.address = .ok address → address.port.toNat = s.port :=
  ⟨s.address_hostText, s.address_bare, fun _ => s.port_of_address⟩

theorem serves_every_address_mapped :
    ({ listenAddr := "[::ffff:10.0.0.1]", port := 9200 } : MetricsSettings).address
        = .ok { ip := .v6 #v[0, 0, 0, 0, 0, 0xffff, 0x0a00, 1], port := 9200 }
      ∧ (9200 : UInt16).toNat = ({ listenAddr := "[::ffff:10.0.0.1]", port := 9200 } : MetricsSettings).port := by
  have haddress : ({ listenAddr := "[::ffff:10.0.0.1]", port := 9200 } : MetricsSettings).address
      = .ok { ip := .v6 #v[0, 0, 0, 0, 0, 0xffff, 0x0a00, 1], port := 9200 } :=
    (serves_every_address {}).1 (.v6 #v[0, 0, 0, 0, 0, 0xffff, 0x0a00, 1]) 9200
  exact ⟨haddress, (serves_every_address _).2.2 _ haddress⟩

theorem loopback_refused :
    String.ofList (IpAddress.v6 #v[0, 0, 0, 0, 0, 0, 0, 1]).render = "::1"
      ∧ ({ listenAddr := "::1", port := 9100, endpoint := "/metrics" } : MetricsSettings).address
          = .error .badAddress := by
  have hrender : String.ofList (IpAddress.v6 #v[0, 0, 0, 0, 0, 0, 0, 1]).render = "::1" := by decide
  have haddress := address_bare {} #v[0, 0, 0, 0, 0, 0, 0, 1] 9100
  rw [listeningOn, hrender] at haddress
  exact ⟨hrender, haddress⟩

end MetricsSettings

end WafWatch
