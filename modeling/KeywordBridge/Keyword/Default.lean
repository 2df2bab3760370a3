import KeywordBridge.Keyword.Table

/-!
# The isiXhosa table

The default table lets a program be written with isiXhosa keywords. Every
reserved word of the target language has one isiXhosa word, and the words that
open a block carry a snippet with numbered places to fill in.
-/

namespace KeywordBridge

/-- The entries of the default table, grouped as literals, logic, control flow,
definitions, modules, exceptions, loop control and scope. -/
def defaultEntries : List Entry :=
  [
    ⟨"Ubuxoki", "False", "falsehood", "literal", none⟩,
    ⟨"Inyaniso", "True", "truth", "literal", none⟩,
    ⟨"Akukho", "None", "nothing", "literal", none⟩,
    ⟨"kwaye", "and", "and also", "logical", none⟩,
    ⟨"okanye", "or", "or", "logical", none⟩,
    ⟨"hayi", "not", "no / not", "logical", none⟩,
    ⟨"ngaphakathi", "in", "inside", "operator", none⟩,
    ⟨"njenge", "as", "like / as", "operator", none⟩,
    ⟨"ngu", "is", "it is", "operator", none⟩,
    ⟨"okanye_ukuba", "elif", "or if", "control",
      some "okanye_ukuba $\x7b1:condition\x7d:\n\t$0"⟩,
    ⟨"ukuba", "if", "if / when", "control",
      some "ukuba $\x7b1:condition\x7d:\n\t$0"⟩,
    ⟨"enye", "else", "another / else", "control",
      some "enye:\n\t$0"⟩,
    ⟨"ngokulandelelana", "for", "in sequence", "loop",
      some "ngokulandelelana $\x7b1:item\x7d ngaphakathi $\x7b2:iterable\x7d:\n\t$0"⟩,
    ⟨"ngexesha", "while", "during the time", "loop",
      some "ngexesha $\x7b1:condition\x7d:\n\t$0"⟩,
    ⟨"chaza", "def", "define / explain", "definition",
      some "chaza $\x7b1:function_name\x7d($\x7b2:parameters\x7d):\n\t$0"⟩,
    ⟨"iklasi", "class", "borrowed from 'class'", "definition",
      some "iklasi $\x7b1:ClassName\x7d:\n\t$0"⟩,
    ⟨"umsebenzi", "lambda", "a task / function", "definition", none⟩,
    ⟨"buyisela", "return", "give back", "definition", none⟩,
    ⟨"velisa", "yield", "produce", "definition", none⟩,
    ⟨"ukusuka", "from", "from", "module", none⟩,
    ⟨"ngenisa", "import", "bring in", "module", none⟩,
    ⟨"zama", "try", "attempt", "exception",
      some "zama:\n\t$0"⟩,
    ⟨"ngaphandle", "except", "except for", "exception",
      some "ngaphandle $\x7b1:Exception\x7d njenge $\x7b2:e\x7d:\n\t$0"⟩,
    ⟨"ekugqibeleni", "finally", "finally", "exception",
      some "ekugqibeleni:\n\t$0"⟩,
    ⟨"phakamisa", "raise", "lift up", "exception", none⟩,
    ⟨"qinisekisa", "assert", "make sure", "exception", none⟩,
    ⟨"yekisa", "break", "stop", "loop-control", none⟩,
    ⟨"qhubeka", "continue", "carry on", "loop-control", none⟩,
    ⟨"dlula", "pass", "pass through", "loop-control", none⟩,
    ⟨"jikelele", "global", "all around", "scope", none⟩,
    ⟨"ingaphandle", "nonlocal", "the outside", "scope", none⟩,
    ⟨"ngemva", "async", "afterwards", "scope", none⟩,
    ⟨"linda", "await", "wait", "scope", none⟩,
    ⟨"nge", "with", "with", "scope",
      some "nge $\x7b1:expression\x7d njenge $\x7b2:name\x7d:\n\t$0"⟩,
    ⟨"cima", "del", "erase", "scope", none⟩
  ]

/-- The default table. -/
def Table.default : Table :=
  ⟨defaultEntries, by decide +kernel⟩

end KeywordBridge
