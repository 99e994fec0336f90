/-!
This module holds the categories of attacks.
-/

namespace WafWatch

/--
What kind of attack a blocked request is.
-/
inductive AttackCategory where
  | scannerDetection
  | protocolViolation
  | protocolAnomaly
  | localFileInclusion
  | remoteFileInclusion
  | commandInjection
  | phpInjection
  | crossSiteScripting
  | sqlInjection
  | sessionFixation
  | javaInjection
  | pathTraversal
  | anomalyScoreExceeded
  | securityPolicyViolation
  | unknown
  deriving DecidableEq, Repr, Inhabited

namespace AttackCategory

/--
The words by which people are told the category, which are also the attack type of events.
-/
def label : AttackCategory → String
  | .scannerDetection => "Scanner Detection"
  | .protocolViolation => "HTTP Protocol Violation"
  | .protocolAnomaly => "HTTP Protocol Anomaly"
  | .localFileInclusion => "Local File Inclusion"
  | .remoteFileInclusion => "Remote File Inclusion"
  | .commandInjection => "Command Injection"
  | .phpInjection => "PHP Injection"
  | .crossSiteScripting => "Cross-Site Scripting (XSS)"
  | .sqlInjection => "SQL Injection"
  | .sessionFixation => "Session Fixation"
  | .javaInjection => "Java Injection"
  | .pathTraversal => "Path Traversal"
  | .anomalyScoreExceeded => "Anomaly Score Exceeded"
  | .securityPolicyViolation => "Security Policy Violation"
  | .unknown => "Unknown"

def name : AttackCategory → String
  | .scannerDetection => "ScannerDetection"
  | .protocolViolation => "ProtocolViolation"
  | .protocolAnomaly => "ProtocolAnomaly"
  | .localFileInclusion => "LocalFileInclusion"
  | .remoteFileInclusion => "RemoteFileInclusion"
  | .commandInjection => "CommandInjection"
  | .phpInjection => "PhpInjection"
  | .crossSiteScripting => "CrossSiteScripting"
  | .sqlInjection => "SqlInjection"
  | .sessionFixation => "SessionFixation"
  | .javaInjection => "JavaInjection"
  | .pathTraversal => "PathTraversal"
  | .anomalyScoreExceeded => "AnomalyScoreExceeded"
  | .securityPolicyViolation => "SecurityPolicyViolation"
  | .unknown => "Unknown"

/--
The rule that matched does not tell the kind of attack.
-/
def isInconclusive : AttackCategory → Bool
  | .unknown => true
  | .anomalyScoreExceeded => true
  | _ => false

end AttackCategory

end WafWatch
