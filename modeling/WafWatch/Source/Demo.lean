/-!
This module holds the log lines that are shown when there is no log to read.
-/

namespace WafWatch

def demoLines : List String := [
  r#"2024/01/15 10:30:45 [error] 24#24: *101 [client 203.0.113.7] ModSecurity: Access denied with code 403 (phase 2). detected SQLi using libinjection. [file "/etc/nginx/owasp-modsecurity-crs/rules/REQUEST-942-APPLICATION-ATTACK-SQLI.conf"] [line "45"] [id "942100"] [msg "SQL Injection Attack Detected via libinjection"] [severity "2"] [uri "/products"], client: 203.0.113.7, server: shop.example.com, request: "GET /products?id=1%27%20OR%201=1-- HTTP/1.1", host: "shop.example.com", "User-Agent: sqlmap/1.7.2#stable (https://sqlmap.org)""#,
  r#"2024/01/15 10:31:02 [error] 24#24: *102 [client 198.51.100.23] ModSecurity: Access denied with code 403 (phase 2). Matched "Operator `Ge' with parameter `5' against variable `TX:ANOMALY_SCORE' (Value: `10' ) [file "/etc/nginx/owasp-modsecurity-crs/rules/REQUEST-949-BLOCKING-EVALUATION.conf"] [line "80"] [id "949110"] [msg "Inbound Anomaly Score Exceeded (Total Score: 10)"] [severity "2"] [uri "/search"], client: 198.51.100.23, server: shop.example.com, request: "GET /search?q=%3Cscript%3Ealert(document.cookie)%3C/script%3E HTTP/1.1", host: "shop.example.com", "User-Agent: Mozilla/5.0 (X11; Linux x86_64)""#,
  r#"2024/01/15 10:31:40 [error] 24#24: *103 [client 192.0.2.44] ModSecurity: Access denied with code 403 (phase 2). Matched phrase "etc/passwd" at ARGS:file. [file "/etc/nginx/owasp-modsecurity-crs/rules/REQUEST-930-APPLICATION-ATTACK-LFI.conf"] [line "71"] [id "930120"] [msg "OS File Access Attempt"] [severity "2"] [uri "/download"], client: 192.0.2.44, server: shop.example.com, request: "GET /download?file=../../../../etc/passwd HTTP/1.1", host: "shop.example.com", "User-Agent: curl/8.4.0""#,
  r#"2024/01/15 10:32:15 [error] 24#24: *104 [client 203.0.113.7] ModSecurity: Access denied with code 403 (phase 2). Matched "Operator `Rx' against variable `ARGS:cmd'. [file "/etc/nginx/owasp-modsecurity-crs/rules/REQUEST-932-APPLICATION-ATTACK-RCE.conf"] [line "480"] [id "932160"] [msg "Remote Command Execution: Unix Shell Code Found"] [severity "2"] [uri "/admin/ping"], client: 203.0.113.7, server: shop.example.com, request: "POST /admin/ping?host=127.0.0.1;cat%20/etc/shadow HTTP/1.1", host: "shop.example.com", "User-Agent: python-requests/2.31.0""#,
  r#"2024/01/15 10:33:09 [error] 24#24: *105 [client 100.64.12.9] ModSecurity: Access denied with code 403 (phase 1). Matched "Operator `PmFromFile' with parameter `scanners-user-agents.data' against variable `REQUEST_HEADERS:User-Agent'. [file "/etc/nginx/owasp-modsecurity-crs/rules/REQUEST-913-SCANNER-DETECTION.conf"] [line "34"] [id "913100"] [msg "Found User-Agent associated with security scanner"] [severity "2"] [uri "/"], client: 100.64.12.9, server: shop.example.com, request: "GET / HTTP/1.1", host: "shop.example.com", "User-Agent: Nikto/2.5.0""#,
  r#"2024/01/15 10:34:27 [error] 24#24: *106 [client 198.51.100.23] ModSecurity: Access denied with code 403 (phase 2). Matched "Operator `Ge' with parameter `5' against variable `TX:ANOMALY_SCORE' (Value: `5' ) [file "/etc/nginx/owasp-modsecurity-crs/rules/REQUEST-949-BLOCKING-EVALUATION.conf"] [line "80"] [id "949110"] [msg "Inbound Anomaly Score Exceeded (Total Score: 5)"] [severity "2"] [uri "/api/v1/orders"], client: 198.51.100.23, server: shop.example.com, request: "GET /api/v1/orders HTTP/1.1", host: "shop.example.com", "User-Agent: Mozilla/5.0 (Macintosh; Intel Mac OS X 14_2)""#]

end WafWatch
