import SourceSurvey.Grammar.Basic

/-! The grammar of JSON, with comments. -/

namespace SourceSurvey.Languages

open Grammar

def jsonGrammar : Grammar where
  rules := Reader.rules r#"
    document = _value*;
    _value = object | array | number | string | true | false | null;
    object = '{' @commas(pair)? '}';
    pair = string ':' _value;
    array = '[' @commas(_value)? ']';
    string = '"' '"' | '"' _string_content '"';
    _string_content = (string_content | escape_sequence)+;
    string_content = @immediate(@prec(1, /[^\\"\n]+/));
    escape_sequence = @immediate('\\' /("|\\|\/|b|f|n|r|t|u)/);
    number = @token(
      '-'? ('0' | /[1-9]/ /\d+/?) '.' /\d+/? (('e' | 'E') '-'? /\d+/)?
      | '-'? ('0' | /[1-9]/ /\d+/?) ('e' | 'E') '-'? /\d+/
      | '-'? ('0' | /[1-9]/ /\d+/?));
    true = 'true';
    false = 'false';
    null = 'null';
    comment = @token('//' /.*/ | '/*' /[^*]*\*+([^\/*][^*]*\*+)*/ '/');
  "#
  extras := ruleList "/\\s/ comment"
  externals := []
  inlined := []
  supertypes := ["_value"]
  word := none
  ranks := []
  reserved := []

end SourceSurvey.Languages
