import ShellGuard.Unicode.Script

/-!
# Script extensions — characters that are shared by several scripts

A character's script names the one it belongs to, or says that it is common or inherited.  Some of
those characters are used with a few scripts only; `Script.extended` gives a script's characters
with the shared ones, and takes them from the common and inherited ones.
-/

namespace ShellGuard

namespace Script

/-- The shared characters: the codes of their scripts, and the characters in hexadecimal. -/
def shared : List (List String × String) :=
  [(["adlm", "arab"],
    "204F"),
   (["adlm", "arab", "gara", "nkoo", "rohg", "syrc", "thaa", "yezi"],
    "61F"),
   (["adlm", "arab", "hung"],
    "2E41"),
   (["adlm", "arab", "mand", "mani", "ougr", "phlp", "rohg", "sogd", "syrc"],
    "640"),
   (["aghb", "cher", "copt", "cyrl", "goth", "grek", "latn", "osge", "syrc", "tfng", "todr"],
    "304"),
   (["aghb", "cher", "goth", "latn", "sunu", "syrc", "thai"],
    "331"),
   (["aghb", "latn", "todr"],
    "35E"),
   (["arab", "copt"],
    "102E0-102FB"),
   (["arab", "gara", "nkoo", "rohg", "syrc", "thaa", "yezi"],
    "60C 61B"),
   (["arab", "nkoo"],
    "FD3E-FD3F"),
   (["arab", "rohg"],
    "6D4"),
   (["arab", "syrc"],
    "64B-655 670"),
   (["arab", "syrc", "thaa"],
    "61C"),
   (["arab", "thaa"],
    "FDF2 FDFD"),
   (["arab", "thaa", "yezi"],
    "660-669"),
   (["armn", "cyrl", "dupl", "goth", "grek", "hebr", "latn", "perm", "syrc", "tale", "tfng"],
    "308"),
   (["armn", "geor", "glag"],
    "589"),
   (["avst", "cari", "copt", "dupl", "elba", "geor", "glag", "gong", "goth", "grek", "hani",
     "latn", "lydi", "mahj", "perm", "shaw"],
    "B7"),
   (["avst", "cari", "geor", "hung", "kthi", "lydi", "samr"],
    "2E31"),
   (["avst", "orkh"],
    "2E30"),
   (["beng"],
    "1CF7"),
   (["beng", "cakm", "sylo"],
    "9E6-9EF"),
   (["beng", "cyrl", "deva", "latn", "lisu", "thai", "toto"],
    "2BC"),
   (["beng", "deva"],
    "1CE1 1CF5-1CF6"),
   (["beng", "deva", "dogr", "gong", "gonm", "gran", "gujr", "gukh", "guru", "knda", "limb",
     "mahj", "mlym", "nand", "onao", "orya", "sind", "sinh", "sylo", "takr", "taml", "telu",
     "tirh"],
    "965"),
   (["beng", "deva", "dogr", "gong", "gonm", "gran", "gujr", "guru", "knda", "mahj", "mlym",
     "nand", "onao", "orya", "sind", "sinh", "sylo", "takr", "taml", "telu", "tirh"],
    "964"),
   (["beng", "deva", "gran", "gujr", "guru", "knda", "latn", "mlym", "nand", "newa", "orya",
     "shrd", "taml", "telu", "tirh"],
    "951"),
   (["beng", "deva", "gran", "gujr", "guru", "knda", "latn", "mlym", "newa", "orya", "taml",
     "telu", "tirh"],
    "952"),
   (["beng", "deva", "gran", "knda"],
    "1CD0 1CD2"),
   (["beng", "deva", "gran", "knda", "mlym", "nand", "orya", "sinh", "telu", "tirh", "tutg"],
    "1CF2"),
   (["beng", "deva", "newa", "shrd"],
    "1CED"),
   (["beng", "deva", "newa", "telu"],
    "1CD8"),
   (["beng", "deva", "newa", "telu", "tirh"],
    "1CD5"),
   (["beng", "deva", "shrd"],
    "1CEA"),
   (["beng", "deva", "telu"],
    "1CD6"),
   (["beng", "deva", "tutg"],
    "A8F1"),
   (["bopo", "hang", "hani", "hira", "kana"],
    "3003 3013 301C-301F 3030 3037 FE45-FE46"),
   (["bopo", "hang", "hani", "hira", "kana", "lisu", "mong", "tibt", "yiii"],
    "300A-300B"),
   (["bopo", "hang", "hani", "hira", "kana", "mong", "phag", "yiii"],
    "3002"),
   (["bopo", "hang", "hani", "hira", "kana", "mong", "tibt", "yiii"],
    "3008-3009"),
   (["bopo", "hang", "hani", "hira", "kana", "mong", "yiii"],
    "3001"),
   (["bopo", "hang", "hani", "hira", "kana", "yiii"],
    "300C-3011 3014-301B 30FB FF61-FF65"),
   (["bopo", "hani"],
    "302A-302D"),
   (["bopo", "latn"],
    "2C7 2C9-2CB 2D9"),
   (["bugi", "java"],
    "A9CF"),
   (["buhd", "hano", "tagb", "tglg"],
    "1735-1736"),
   (["cakm", "mymr", "tale"],
    "1040-1049"),
   (["cari", "geor", "glag", "hung", "lyci", "orkh"],
    "205A"),
   (["cari", "grek", "hung", "mero"],
    "205D"),
   (["cher", "copt", "cyrl", "grek", "latn", "perm", "sunu", "tale"],
    "300"),
   (["cher", "cyrl", "grek", "latn", "osge", "sunu", "tale", "todr"],
    "301"),
   (["cher", "cyrl", "latn", "osge"],
    "30B"),
   (["cher", "cyrl", "latn", "tfng"],
    "302"),
   (["cher", "dupl", "kana", "latn", "syrc", "tfng"],
    "323"),
   (["cher", "dupl", "latn", "syrc"],
    "324"),
   (["cher", "latn", "syrc"],
    "330"),
   (["cher", "latn", "tale"],
    "30C"),
   (["copt", "dupl", "hebr", "latn", "perm", "syrc", "tale", "tfng", "todr"],
    "307"),
   (["copt", "elba", "glag", "goth", "kana", "latn"],
    "305"),
   (["copt", "grek"],
    "374-375"),
   (["copt", "latn"],
    "2E17"),
   (["cpmn", "cprt", "linb"],
    "10100-10101"),
   (["cprt", "lina", "linb"],
    "10107-10133"),
   (["cprt", "linb"],
    "10102 10137-1013F"),
   (["cyrl", "glag"],
    "484 487 2E43 A66F"),
   (["cyrl", "grek", "latn", "perm", "tfng"],
    "306"),
   (["cyrl", "latn"],
    "485-486"),
   (["cyrl", "latn", "syrc"],
    "1DF8"),
   (["cyrl", "latn", "todr"],
    "311"),
   (["cyrl", "perm"],
    "483"),
   (["deva"],
    "1CD1 1CD4 1CDB 1CDE-1CDF 1CE3-1CE8 1CEC 1CEE-1CF1"),
   (["deva", "dogr", "gujr", "guru", "khoj", "knda", "kthi", "mahj", "mlym", "modi", "nand",
     "shrd", "sind", "takr", "tirh", "tutg"],
    "A830-A832"),
   (["deva", "dogr", "gujr", "guru", "khoj", "knda", "kthi", "mahj", "modi", "nand", "shrd",
     "sind", "takr", "tirh", "tutg"],
    "A833-A835"),
   (["deva", "dogr", "gujr", "guru", "khoj", "kthi", "mahj", "modi", "shrd", "sind", "takr",
     "tirh"],
    "A838"),
   (["deva", "dogr", "gujr", "guru", "khoj", "kthi", "mahj", "modi", "sind", "takr", "tirh"],
    "A836-A837 A839"),
   (["deva", "dogr", "kthi", "mahj"],
    "966-96F"),
   (["deva", "gran"],
    "1CF3 1CF8-1CF9"),
   (["deva", "gran", "knda"],
    "1CD3"),
   (["deva", "gran", "knda", "tutg"],
    "1CF4"),
   (["deva", "gran", "latn"],
    "20F0"),
   (["deva", "knda", "mlym", "orya", "taml", "telu"],
    "1CDA"),
   (["deva", "nand", "newa"],
    "1CE9"),
   (["deva", "newa"],
    "1CEB"),
   (["deva", "newa", "shrd"],
    "1CD7"),
   (["deva", "newa", "tirh"],
    "1CE2"),
   (["deva", "shrd"],
    "1CD9 1CDC-1CDD 1CE0"),
   (["deva", "taml"],
    "A8F3"),
   (["dupl"],
    "2E3C 1BCA0-1BCA3"),
   (["dupl", "latn", "syrc"],
    "30A"),
   (["ethi", "latn"],
    "30E"),
   (["geor", "glag", "latn"],
    "10FB"),
   (["glag", "latn", "sunu", "syrc", "thai"],
    "303"),
   (["gran", "taml"],
    "BE6-BF3 11301 11303 1133B-1133C 11FD0-11FD1 11FD3"),
   (["grek"],
    "342 345 1DC0-1DC1"),
   (["grek", "latn", "perm", "todr"],
    "313"),
   (["gujr", "khoj"],
    "AE6-AEF"),
   (["guru", "mult"],
    "A66-A6F"),
   (["hani"],
    "3006 303E-303F 3190-319F 31C0-31E5 3220-3247 3280-32B0 32C0-32CB 32FF 3358-3370
     337B-337F 33E0-33FE 1D360-1D371 1F250-1F251"),
   (["hani", "hira", "kana"],
    "303C-303D"),
   (["hani", "latn"],
    "A700-A707"),
   (["hani", "tang"],
    "2FF0-2FFF 31EF"),
   (["hira", "kana"],
    "3031-3035 3099-309C 30A0 30FC FF70 FF9E-FF9F"),
   (["kali", "latn", "mymr"],
    "A92E"),
   (["knda", "nand", "tutg"],
    "CE6-CEF"),
   (["latn"],
    "363-36F"),
   (["latn", "lisu"],
    "2CD"),
   (["latn", "mong", "phag"],
    "202F"),
   (["latn", "osge"],
    "358"),
   (["latn", "sunu"],
    "30D 310"),
   (["latn", "sunu", "syrc"],
    "32D"),
   (["latn", "syrc"],
    "325 32E"),
   (["latn", "tfng"],
    "309"),
   (["latn", "thai"],
    "2D7"),
   (["mani", "ougr"],
    "10AF2"),
   (["mong", "phag"],
    "1802-1803 1805"),
   (["nand"],
    "1CFA"),
   (["runr"],
    "16EB-16ED"),
   (["syrc"],
    "1DFA")]

def sharedSet : CharSet :=
  .unions (shared.map fun entry => .ofHex entry.2)

/-- The shared characters of the script with the four-letter code `code`. -/
def sharedWith (code : String) : CharSet :=
  .unions ((shared.filter fun entry => entry.1.contains code).map fun entry => .ofHex entry.2)

/-- The characters that are used with the script. -/
def extended (s : Script) : CharSet :=
  (s.set.diff sharedSet).union (sharedWith (s.names.headD ""))

end Script

end ShellGuard
