import SourceSurvey.Language
import SourceSurvey.Languages.EcmascriptScanner
import SourceSurvey.Languages.GoGrammar
import SourceSurvey.Languages.JavaGrammar
import SourceSurvey.Languages.JavascriptGrammar
import SourceSurvey.Languages.JsonGrammar
import SourceSurvey.Languages.PythonGrammar
import SourceSurvey.Languages.PythonScanner
import SourceSurvey.Languages.RustGrammar
import SourceSurvey.Languages.RustScanner
import SourceSurvey.Languages.TypescriptGrammar
import SourceSurvey.Languages.YamlGrammar
import SourceSurvey.Languages.YamlScanner
import SourceSurvey.Parsing.Machine

/-! The machines of the languages. -/

namespace SourceSurvey.Languages

open Parsing

def goMachine : Machine := .ofGrammar goGrammar .none

def javaMachine : Machine := .ofGrammar javaGrammar .none

def javascriptMachine : Machine :=
  .ofGrammar javascriptGrammar (EcmascriptScanner.scanner .javascript)

def jsonMachine : Machine := .ofGrammar jsonGrammar .none

def pythonMachine : Machine := .ofGrammar pythonGrammar PythonScanner.scanner

def rustMachine : Machine := .ofGrammar rustGrammar RustScanner.scanner

def tsxMachine : Machine := .ofGrammar tsxGrammar (EcmascriptScanner.scanner .typescript)

def typescriptMachine : Machine :=
  .ofGrammar typescriptGrammar (EcmascriptScanner.scanner .typescript)

def yamlMachine : Machine := .ofGrammar yamlGrammar YamlScanner.scanner

end SourceSurvey.Languages

namespace SourceSurvey.Language

open Languages

def machine : Language → Parsing.Machine
  | go => goMachine
  | java => javaMachine
  | javaScript => javascriptMachine
  | json => jsonMachine
  | python => pythonMachine
  | rust => rustMachine
  | tsx => tsxMachine
  | typeScript => typescriptMachine
  | yaml => yamlMachine

end SourceSurvey.Language
