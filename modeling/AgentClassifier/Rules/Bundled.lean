import AgentClassifier.Rules

/-!
The rules that come with the library: the widespread browsers, operating systems and handsets.

* `RuleTable.bundled` : the table. Crawlers come first, derived browsers before the ones they derive
  from, and general rules after special ones.
* `RuleTable.bundledText` : the text that the table is written in.
-/

namespace AgentClassifier.RuleTable

/-- The bundled rules for user agents. -/
def bundledUserAgents : List UserAgentRule := [
  ⟨some "(Googlebot|bingbot|YandexBot|DuckDuckBot|Baiduspider)/(\\d+)\\.(\\d+)", none, none, none⟩,
  ⟨some "(curl|Wget|python-requests)/(\\d+)\\.(\\d+)(?:\\.(\\d+)|)", none, none, none⟩,
  ⟨some "(Edge?)/(\\d+)(?:\\.(\\d+)|)(?:\\.(\\d+)|)(?:\\.(\\d+)|)", some "Edge", none, none⟩,
  ⟨some "(OPR)/(\\d+)\\.(\\d+)(?:\\.(\\d+)|)", some "Opera", none, none⟩,
  ⟨some "(SamsungBrowser)/(\\d+)\\.(\\d+)", some "Samsung Internet", none, none⟩,
  ⟨some "(CriOS)/(\\d+)\\.(\\d+)\\.(\\d+)(?:\\.(\\d+)|)", some "Chrome Mobile iOS", none, none⟩,
  ⟨some "(FxiOS)/(\\d+)\\.(\\d+)(?:\\.(\\d+)|)", some "Firefox iOS", none, none⟩,
  ⟨some "(Chrome)/(\\d+)\\.(\\d+)\\.(\\d+)\\.(\\d+) Mobile", some "Chrome Mobile", none, none⟩,
  ⟨some "(Chromium|Chrome)/(\\d+)\\.(\\d+)(?:\\.(\\d+)|)(?:\\.(\\d+)|)", none, none, none⟩,
  ⟨some "(Firefox)/(\\d+)\\.(\\d+)\\.(\\d+)", none, none, none⟩,
  ⟨some "(Firefox)/(\\d+)\\.(\\d+)(a\\d+[a-z]*|b\\d+[a-z]*|pre|)", none, none, none⟩,
  ⟨some "(Opera)/.+Version/(\\d+)\\.(\\d+)", none, none, none⟩,
  ⟨some "(Opera)/(\\d+)\\.(\\d+)", none, none, none⟩,
  ⟨some "(Android)[ \\-/](\\d+)\\.(\\d+)(?:[.\\-]([a-z0-9]+)|).+Version/\\d+\\.\\d+.+Safari/",
    some "Android", none, none⟩,
  ⟨some "(iPod|iPhone|iPad).+Version/(\\d+)\\.(\\d+)(?:\\.(\\d+)|).*[ +]Safari",
    some "Mobile Safari", none, none⟩,
  ⟨some "(Version)/(\\d+)\\.(\\d+)(?:\\.(\\d+)|).*Safari/", some "Safari", none, none⟩,
  ⟨some "(Trident)/\\d+\\.\\d+.*rv:(\\d+)\\.(\\d+)", some "IE", none, none⟩,
  ⟨some "(MSIE) (\\d+)\\.(\\d+)", some "IE", none, none⟩]

/-- The bundled rules for operating systems. -/
def bundledSystems : List OsRule := [
  ⟨some "(Windows Phone) (?:OS[ /])?(\\d+)\\.(\\d+)", none, none, none, none⟩,
  ⟨some "(Windows NT 10\\.0)", some "Windows", some "10", none, none⟩,
  ⟨some "(Windows NT 6\\.3)", some "Windows", some "8", some "1", none⟩,
  ⟨some "(Windows NT 6\\.2)", some "Windows", some "8", none, none⟩,
  ⟨some "(Windows NT 6\\.1)", some "Windows", some "7", none, none⟩,
  ⟨some "(Windows NT 6\\.0)", some "Windows", some "Vista", none, none⟩,
  ⟨some "(Windows NT 5\\.1)", some "Windows", some "XP", none, none⟩,
  ⟨some "Win(95|98|3\\.1|NT|ME|2000)", some "Windows $1", none, none, none⟩,
  ⟨some "(Android)[ \\-/](\\d+)(?:\\.(\\d+)|)(?:[.\\-]([a-z0-9]+)|)", none, none, none, none⟩,
  ⟨some ("(CPU[ +]OS|iPhone[ +]OS|CPU[ +]iPhone|CPU IPhone OS|CPU iPad OS)[ +]+" ++
    "(\\d+)[_\\.](\\d+)(?:[_\\.](\\d+)|)"),
    some "iOS", none, none, none⟩,
  ⟨some "((?:Mac[ +]?|; )OS[ +]X)[\\s+/](?:(\\d+)[_.](\\d+)(?:[_.](\\d+)|)|Mach-O)",
    some "Mac OS X", none, none, none⟩,
  ⟨some "(CrOS) [a-z0-9_]+ (\\d+)\\.(\\d+)(?:\\.(\\d+)|)", some "Chrome OS", none, none, none⟩,
  ⟨some "(Ubuntu)(?:[ /](\\d+)\\.(\\d+)|)", none, none, none, none⟩,
  ⟨some "(Linux)(?:[ /](\\d+)\\.(\\d+)(?:\\.(\\d+)|)|)", none, none, none, none⟩]

/-- The bundled rules for devices. -/
def bundledDevices : List DeviceRule := [
  ⟨some "(?:bot|spider|crawl|slurp)", some "i", some "Spider", some "Spider", some "Desktop"⟩,
  ⟨some "(iPad)(?:;| Simulator;)", none, some "iPad", some "Apple", some "iPad"⟩,
  ⟨some "(iPod)(?:;| touch;| Simulator;)", none, some "iPod", some "Apple", some "iPod"⟩,
  ⟨some "(iPhone)(?:;| Simulator;)", none, some "iPhone", some "Apple", some "iPhone"⟩,
  ⟨some "(Kindle)/(\\d+\\.\\d+)", none, some "Kindle", some "Amazon", some "Kindle $2"⟩,
  ⟨some "; *(?:SAMSUNG|Samsung)[ \\-]?(SM-[A-Za-z0-9]+)",
    some "i", some "Samsung $1", some "Samsung", some "$1"⟩,
  ⟨some "; *(LG)-([A-Za-z0-9]+)", none, some "$1-$2", some "LG", some "$2"⟩,
  ⟨some "; *(Nexus [0-9]+[A-Za-z]*)", none, some "$1", some "Google", some "$1"⟩,
  ⟨some ("Android[\\- ][\\d]+(?:\\.[\\d]+)*;(?: *[A-Za-z]\x7b2\x7d[_\\-][A-Za-z]\x7b2\x7d;)? " ++
    "*([^;/]+?) Build/"),
    none, some "$1", some "Generic_Android", some "$1"⟩]

/-- The bundled rules. -/
def bundled : RuleTable := ⟨bundledUserAgents, bundledSystems, bundledDevices⟩

/-! ## The written form -/

/-- What comes before the rules in their written form, line by line. -/
def bundledPreface : List String := [
  "# Compact pattern table in uap-core \x60regexes.yaml\x60 layout.",
  "#",
  "# Covers the mainstream browsers, operating systems and handset families.",
  "# For full coverage load the upstream uap-core file with",
  "# \x60Parser::from_yaml_path\x60.  Order matters: the first matching record wins.",
  ""]

/-- The bundled rules for user agents as they are written. -/
def bundledUserAgentLines : List String := [
  "user_agent_parsers:",
  "  # Crawlers and command-line clients",
  "  - regex: '(Googlebot|bingbot|YandexBot|DuckDuckBot|Baiduspider)/(\\d+)\\.(\\d+)'",
  "  - regex: '(curl|Wget|python-requests)/(\\d+)\\.(\\d+)(?:\\.(\\d+)|)'",
  "",
  "  # Chromium derivatives before Chrome itself",
  "  - regex: '(Edge?)/(\\d+)(?:\\.(\\d+)|)(?:\\.(\\d+)|)(?:\\.(\\d+)|)'",
  "    family_replacement: 'Edge'",
  "  - regex: '(OPR)/(\\d+)\\.(\\d+)(?:\\.(\\d+)|)'",
  "    family_replacement: 'Opera'",
  "  - regex: '(SamsungBrowser)/(\\d+)\\.(\\d+)'",
  "    family_replacement: 'Samsung Internet'",
  "  - regex: '(CriOS)/(\\d+)\\.(\\d+)\\.(\\d+)(?:\\.(\\d+)|)'",
  "    family_replacement: 'Chrome Mobile iOS'",
  "  - regex: '(FxiOS)/(\\d+)\\.(\\d+)(?:\\.(\\d+)|)'",
  "    family_replacement: 'Firefox iOS'",
  "  - regex: '(Chrome)/(\\d+)\\.(\\d+)\\.(\\d+)\\.(\\d+) Mobile'",
  "    family_replacement: 'Chrome Mobile'",
  "  - regex: '(Chromium|Chrome)/(\\d+)\\.(\\d+)(?:\\.(\\d+)|)(?:\\.(\\d+)|)'",
  "",
  "  # Gecko",
  "  - regex: '(Firefox)/(\\d+)\\.(\\d+)\\.(\\d+)'",
  "  - regex: '(Firefox)/(\\d+)\\.(\\d+)(a\\d+[a-z]*|b\\d+[a-z]*|pre|)'",
  "",
  "  # Presto",
  "  - regex: '(Opera)/.+Version/(\\d+)\\.(\\d+)'",
  "  - regex: '(Opera)/(\\d+)\\.(\\d+)'",
  "",
  "  # Stock Android browser before the generic Safari rule",
  "  - regex: '(Android)[ \\-/](\\d+)\\.(\\d+)(?:[.\\-]([a-z0-9]+)|).+Version/\\d+\\.\\d+.+Safari/'",
  "    family_replacement: 'Android'",
  "",
  "  # WebKit",
  "  - regex: '(iPod|iPhone|iPad).+Version/(\\d+)\\.(\\d+)(?:\\.(\\d+)|).*[ +]Safari'",
  "    family_replacement: 'Mobile Safari'",
  "  - regex: '(Version)/(\\d+)\\.(\\d+)(?:\\.(\\d+)|).*Safari/'",
  "    family_replacement: 'Safari'",
  "",
  "  # Trident",
  "  - regex: '(Trident)/\\d+\\.\\d+.*rv:(\\d+)\\.(\\d+)'",
  "    family_replacement: 'IE'",
  "  - regex: '(MSIE) (\\d+)\\.(\\d+)'",
  "    family_replacement: 'IE'",
  ""]

/-- The bundled rules for operating systems as they are written. -/
def bundledSystemLines : List String := [
  "os_parsers:",
  "  - regex: '(Windows Phone) (?:OS[ /])?(\\d+)\\.(\\d+)'",
  "  - regex: '(Windows NT 10\\.0)'",
  "    os_replacement: 'Windows'",
  "    os_v1_replacement: '10'",
  "  - regex: '(Windows NT 6\\.3)'",
  "    os_replacement: 'Windows'",
  "    os_v1_replacement: '8'",
  "    os_v2_replacement: '1'",
  "  - regex: '(Windows NT 6\\.2)'",
  "    os_replacement: 'Windows'",
  "    os_v1_replacement: '8'",
  "  - regex: '(Windows NT 6\\.1)'",
  "    os_replacement: 'Windows'",
  "    os_v1_replacement: '7'",
  "  - regex: '(Windows NT 6\\.0)'",
  "    os_replacement: 'Windows'",
  "    os_v1_replacement: 'Vista'",
  "  - regex: '(Windows NT 5\\.1)'",
  "    os_replacement: 'Windows'",
  "    os_v1_replacement: 'XP'",
  "  - regex: 'Win(95|98|3\\.1|NT|ME|2000)'",
  "    os_replacement: 'Windows $1'",
  "",
  "  - regex: '(Android)[ \\-/](\\d+)(?:\\.(\\d+)|)(?:[.\\-]([a-z0-9]+)|)'",
  "",
  "  - regex: '(CPU[ +]OS|iPhone[ +]OS|CPU[ +]iPhone|CPU IPhone OS|CPU iPad OS)[ +]+(\\d+)[_\\.](\\d+)(?:[_\\.](\\d+)|)'",
  "    os_replacement: 'iOS'",
  "  - regex: '((?:Mac[ +]?|; )OS[ +]X)[\\s+/](?:(\\d+)[_.](\\d+)(?:[_.](\\d+)|)|Mach-O)'",
  "    os_replacement: 'Mac OS X'",
  "",
  "  - regex: '(CrOS) [a-z0-9_]+ (\\d+)\\.(\\d+)(?:\\.(\\d+)|)'",
  "    os_replacement: 'Chrome OS'",
  "  - regex: '(Ubuntu)(?:[ /](\\d+)\\.(\\d+)|)'",
  "  - regex: '(Linux)(?:[ /](\\d+)\\.(\\d+)(?:\\.(\\d+)|)|)'",
  ""]

/-- The bundled rules for devices as they are written. -/
def bundledDeviceLines : List String := [
  "device_parsers:",
  "  # Crawlers",
  "  - regex: '(?:bot|spider|crawl|slurp)'",
  "    regex_flag: 'i'",
  "    device_replacement: 'Spider'",
  "    brand_replacement: 'Spider'",
  "    model_replacement: 'Desktop'",
  "",
  "  # Apple",
  "  - regex: '(iPad)(?:;| Simulator;)'",
  "    device_replacement: 'iPad'",
  "    brand_replacement: 'Apple'",
  "    model_replacement: 'iPad'",
  "  - regex: '(iPod)(?:;| touch;| Simulator;)'",
  "    device_replacement: 'iPod'",
  "    brand_replacement: 'Apple'",
  "    model_replacement: 'iPod'",
  "  - regex: '(iPhone)(?:;| Simulator;)'",
  "    device_replacement: 'iPhone'",
  "    brand_replacement: 'Apple'",
  "    model_replacement: 'iPhone'",
  "",
  "  # Amazon",
  "  - regex: '(Kindle)/(\\d+\\.\\d+)'",
  "    device_replacement: 'Kindle'",
  "    brand_replacement: 'Amazon'",
  "    model_replacement: 'Kindle $2'",
  "",
  "  # Handset makers",
  "  - regex: '; *(?:SAMSUNG|Samsung)[ \\-]?(SM-[A-Za-z0-9]+)'",
  "    regex_flag: 'i'",
  "    device_replacement: 'Samsung $1'",
  "    brand_replacement: 'Samsung'",
  "    model_replacement: '$1'",
  "  - regex: '; *(LG)-([A-Za-z0-9]+)'",
  "    device_replacement: '$1-$2'",
  "    brand_replacement: 'LG'",
  "    model_replacement: '$2'",
  "  - regex: '; *(Nexus [0-9]+[A-Za-z]*)'",
  "    device_replacement: '$1'",
  "    brand_replacement: 'Google'",
  "    model_replacement: '$1'",
  "",
  "  # Any other Android handset that announces a build id",
  "  - regex: 'Android[\\- ][\\d]+(?:\\.[\\d]+)*;(?: *[A-Za-z]\x7b2\x7d[_\\-][A-Za-z]\x7b2\x7d;)? *([^;/]+?) Build/'",
  "    device_replacement: '$1'",
  "    brand_replacement: 'Generic_Android'",
  "    model_replacement: '$1'"]

/-- The text of the given lines. -/
def textOfLines (lines : List String) : String :=
  String.ofList (lines.flatMap fun line => line.toList ++ ['\n'])

/-- The bundled rules as they are written. -/
def bundledText : String :=
  textOfLines (bundledPreface ++ bundledUserAgentLines ++ bundledSystemLines ++ bundledDeviceLines)

end AgentClassifier.RuleTable
