import KeywordBridge.Text.Basic

/-!
# The editor page

The service offers one page with an editor, which validates a program while it is
typed and translates it on request. The page needs nothing but the service
itself.
-/

namespace KeywordBridge

namespace Web

/-- The lines of the page. -/
def pageLines : List String :=
  [
    "<!doctype html>",
    "<html lang=\"en\">",
    "<head>",
    "<meta charset=\"utf-8\" />",
    "<meta name=\"viewport\" content=\"width=device-width,initial-scale=1\" />",
    "<title>isiPython • Editor</title>",
    "<style>",
    ":root\x7b --bg:#0b0f14; --panel:#0f141b; --ink:#cfd8e3; --muted:#8a94a6; --accent:#6ee7ff;",
    "       --border:#1c2530; --danger:#ff5d5d; --ok:#45d483; \x7d",
    "*\x7bbox-sizing:border-box\x7d",
    "body\x7b margin:0; background:var(--bg); color:var(--ink);",
    "      font:15px/1.45 system-ui,-apple-system,Segoe UI,Roboto,Ubuntu,Arial; \x7d",
    ".container\x7b max-width:1100px; margin:24px auto; padding:0 16px; \x7d",
    ".card\x7b background:var(--panel); border:1px solid var(--border); border-radius:16px; padding:18px; \x7d",
    "h1\x7b font-size:20px; margin:0 0 8px 0; \x7d",
    ".grid\x7b display:grid; grid-template-columns:1fr 1fr; gap:12px; \x7d",
    "textarea, pre\x7b width:100%; min-height:340px; padding:12px; border-radius:12px; border:1px solid var(--border);",
    "  background:#0b1117; color:var(--ink); font-family:ui-monospace,Menlo,Consolas,monospace; font-size:14px; margin:0; \x7d",
    ".btn\x7b padding:8px 14px; border-radius:10px; border:1px solid var(--border); background:#0b1117; color:var(--ink); cursor:pointer; \x7d",
    ".btn:hover\x7b border-color:var(--accent) \x7d",
    ".meta\x7b color:var(--muted); font-size:13px; margin:8px 0; \x7d",
    ".diag\x7b font-family:ui-monospace,Menlo,Consolas,monospace; font-size:13px; \x7d",
    ".diag .error\x7b color:var(--danger) \x7d .diag .ok\x7b color:var(--ok) \x7d",
    "</style>",
    "</head>",
    "<body>",
    "  <div class=\"container\">",
    "    <div class=\"card\">",
    "      <h1>isiPython</h1>",
    "      <div class=\"meta\">Bhala ikhowudi yakho • diagnostics refresh 500 ms after you stop typing</div>",
    "      <div class=\"grid\">",
    "        <textarea id=\"src\" spellcheck=\"false\">chaza add(a, b):",
    "    buyisela a + b",
    "",
    "ukuba add(2, 3) > 4:",
    "    print(\"kulungile\")",
    "</textarea>",
    "        <pre id=\"out\"></pre>",
    "      </div>",
    "      <div class=\"meta\">",
    "        <button id=\"fwd\" class=\"btn\">isiPython → Python</button>",
    "        <button id=\"rev\" class=\"btn\">Python → isiPython</button>",
    "      </div>",
    "      <div id=\"diag\" class=\"diag\"></div>",
    "    </div>",
    "  </div>",
    "<script>",
    "const $ = (s) => document.querySelector(s);",
    "const src = $(\"#src\"), out = $(\"#out\"), diag = $(\"#diag\");",
    "async function post(path, body)\x7b",
    "  const r = await fetch(path, \x7bmethod:\"POST\", headers:\x7b\"Content-Type\":\"application/json\"\x7d, body:JSON.stringify(body)\x7d);",
    "  if(!r.ok) throw new Error(`HTTP $\x7br.status\x7d`);",
    "  return r.json();",
    "\x7d",
    "async function validate()\x7b",
    "  try\x7b",
    "    const rows = await post(\"/api/validate\", \x7bcode: src.value\x7d);",
    "    diag.innerHTML = rows.length === 0 ? '<div class=\"ok\">No problems.</div>'",
    "      : rows.map(d => `<div class=\"error\">$\x7bd.line\x7d:$\x7bd.column\x7d [$\x7bd.code\x7d] $\x7bd.message\x7d</div>`).join(\"\");",
    "  \x7dcatch(e)\x7b diag.textContent = `Error: $\x7be.message ?? e\x7d`; \x7d",
    "\x7d",
    "async function translate(direction)\x7b",
    "  const r = await post(\"/api/translate\", \x7bcode: src.value, direction\x7d);",
    "  out.textContent = r.translatedCode;",
    "\x7d",
    "let t; // debounce timer",
    "src.addEventListener(\"input\", () => \x7b clearTimeout(t); t = setTimeout(validate, 500); \x7d);",
    "$(\"#fwd\").addEventListener(\"click\", () => translate(\"forward\"));",
    "$(\"#rev\").addEventListener(\"click\", () => translate(\"reverse\"));",
    "validate();",
    "</script>",
    "</body>",
    "</html>"
  ]

/-- The page. A line feed stands in front of its first line and behind every
line. -/
def page : Text :=
  '\n' :: pageLines.flatMap fun line => line.toList ++ ['\n']

end Web

end KeywordBridge
