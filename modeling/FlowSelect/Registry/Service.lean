import FlowSelect.Fault
import FlowSelect.Suggestion
import FlowSelect.Text.Case
import FlowSelect.Text.Numeral
/-! The well-known service ports, and lookups in them.

A port number may have a registered service; a service name finds its port whatever its case.
A port is shown as `service (port)` when it has a service. Ports sort with the named ones first,
by their shown text in lower case, and then the others by number; equal ports keep their order. -/
namespace FlowSelect.Service

/-- Port numbers with their registered service names, by increasing port. -/
def registry : List (Nat × String) :=
  [(7, "echo"), (20, "ftp-data"), (21, "ftp"), (22, "ssh"), (23, "telnet"),
   (25, "smtp"), (37, "time"), (43, "whois"), (49, "tacacs"), (53, "domain"),
   (67, "bootps"), (68, "bootpc"), (69, "tftp"), (70, "gopher"), (79, "finger"),
   (80, "http"), (88, "kerberos"), (110, "pop3"), (111, "sunrpc"), (119, "nntp"),
   (123, "ntp"), (135, "epmap"), (137, "netbios-ns"), (138, "netbios-dgm"), (139, "netbios-ssn"),
   (143, "imap"), (161, "snmp"), (162, "snmptrap"), (179, "bgp"), (194, "irc"),
   (389, "ldap"), (443, "https"), (445, "microsoft-ds"), (464, "kpasswd"), (465, "submissions"),
   (500, "isakmp"), (514, "syslog"), (515, "printer"), (520, "router"), (546, "dhcpv6-client"),
   (547, "dhcpv6-server"), (554, "rtsp"), (587, "submission"), (631, "ipp"), (636, "ldaps"),
   (853, "domain-s"), (873, "rsync"), (989, "ftps-data"), (990, "ftps"), (993, "imaps"),
   (995, "pop3s"), (1080, "socks"), (1194, "openvpn"), (1433, "ms-sql-s"), (1521, "ncube-lm"),
   (1701, "l2f"), (1812, "radius"), (1813, "radius-acct"), (2049, "nfs"), (2379, "etcd-client"),
   (2380, "etcd-server"), (3306, "mysql"), (3389, "ms-wbt-server"), (4789, "vxlan"), (5060, "sip"),
   (5061, "sips"), (5353, "mdns"), (5432, "postgresql"), (5672, "amqp"), (6379, "redis"),
   (6443, "sun-sr-https"), (8080, "http-alt"), (8443, "pcsync-https"), (9090, "websm"), (9092, "XmlIpcRegSvc"),
   (9100, "hp-pdl-datastr"), (10250, "kubelet"), (11211, "memcache"), (27017, "mongodb")]

/-- The service registered for a port. -/
def name? (port : Int) : Option String :=
  (registry.find? fun p => (p.1 : Int) == port).map Prod.snd

/-- The port of a service, whatever the case of its name. -/
def port? (service : String) : Option Nat :=
  let lowered := Text.lower service
  (registry.find? fun p => Text.lower p.2 == lowered).map Prod.fst

/-- A port as shown to a user: `service (port)` when it has a service, else its number. -/
def format (port : Int) : Except Fault String :=
  match name? port with
  | some s => .ok (s ++ " (" ++ toString port ++ ")")
  | none => Text.Numeral.write port

/-- Where a port goes when ports are sorted: named ports by their shown text, then the others. -/
inductive SortKey where
  /-- A port with a service, by its shown text in lower case. -/
  | named (shown : String)
  /-- A port without a service, by its number. -/
  | bare (port : Int)
  deriving DecidableEq, Repr

/-- The sort key of a port. -/
def sortKey (port : Int) : SortKey :=
  match name? port with
  | some s => .named (Text.lower (s ++ " (" ++ toString port ++ ")"))
  | none => .bare port

/-- Whether one key may stand before another. -/
def SortKey.le : SortKey → SortKey → Bool
  | .named a, .named b => decide (a ≤ b)
  | .named _, .bare _ => true
  | .bare _, .named _ => false
  | .bare a, .bare b => decide (a ≤ b)

theorem SortKey.le_refl (k : SortKey) : k.le k = true := by
  cases k <;> simp [SortKey.le]

theorem SortKey.le_trans (a b c : SortKey) (hab : a.le b = true) (hbc : b.le c = true) :
    a.le c = true := by
  cases a <;> cases b <;> cases c <;> simp_all [SortKey.le]
  · exact String.le_trans hab hbc
  · exact Int.le_trans hab hbc

theorem SortKey.le_total (a b : SortKey) : (a.le b || b.le a) = true := by
  cases a <;> cases b <;> simp [SortKey.le]
  · exact String.le_total _ _
  · exact Int.le_total _ _

/-- Compares two ports: below zero when the first goes before the second, above zero when it
goes after. Two ports with services compare by their shown texts in lower case, a port with a
service goes before one without, and two ports without compare by number. -/
def comparePorts (a b : Int) : Int :=
  match name? a, name? b with
  | some s, some t =>
    let shownA := Text.lower (s ++ " (" ++ toString a ++ ")")
    let shownB := Text.lower (t ++ " (" ++ toString b ++ ")")
    (if shownB < shownA then 1 else 0) - (if shownA < shownB then 1 else 0)
  | some _, none => -1
  | none, some _ => 1
  | none, none => a - b

/-- Ports sorted stably by `comparePorts`: a port moves before an earlier one only when it
compares below it. -/
def sortPorts (ports : List Int) : List Int :=
  ports.mergeSort fun a b => !decide (comparePorts b a < 0)

/-- What a typed port value offers: a number offers its service, kept as the typed number; a
service name offers itself, kept as its port number. -/
def suggest (text : String) : Except Fault (List Suggestion) :=
  if Text.Numeral.isDigits text then
    if text.length > digitLimit then .error (.tooManyDigits text.length)
    else match name? (Text.Numeral.digitsValue text.toList) with
      | some s => .ok [⟨s, text⟩]
      | none => .ok []
  else match port? text with
    | some p => .ok [⟨text, toString p⟩]
    | none => .ok []

end FlowSelect.Service
