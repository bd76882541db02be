import SourceSurvey.Languages.EcmascriptGrammar

/-! The grammar of JavaScript. -/

namespace SourceSurvey.Languages

open Grammar

/-- Reserved words are no names, but they may name properties. -/
def javascriptGrammar : Grammar :=
  { ecmascriptGrammar with
    rules := revise ecmascriptGrammar.rules (Reader.rules r#"
    _module_export_name = identifier | string | 'default';
    declaration = function_declaration | generator_function_declaration | class_declaration
      | lexical_declaration | variable_declaration | using_declaration;
    using_declaration = ('using' | 'await' 'using') @commas(variable_declarator) _semicolon;
    variable_declarator = _declared _initializer?;
    _declared = identifier | @alias('of', identifier) | _destructuring_pattern;
    _for_header = '(' (_lhs_expression | parenthesized_expression
        | 'var' _declared _initializer?
        | ('let' | 'const') _declared _automatic_semicolon?
        | ('using' | 'await' 'using') _declared)
      ('in' | 'of') _expressions ')';
    member_expression = @prec(member,
      (expression | primary_expression | import) ('.' | optional_chain)
      (private_property_identifier
      | @unreserved(@alias(identifier, property_identifier))));
    _property_name = @unreserved(@alias(identifier | _reserved_identifier, property_identifier)
      | private_property_identifier | string | number | computed_property_name);
    _reserved_identifier = 'get' | 'set' | 'async' | 'await' | 'static' | 'export' | 'let';
    "#)
    reserved := nameList "'break' 'case' 'catch' 'class' 'const' 'continue' 'debugger' 'default'
      'delete' 'do' 'else' 'export' 'extends' 'false' 'finally' 'for' 'function' 'if' 'import'
      'in' 'instanceof' 'new' 'null' 'return' 'super' 'switch' 'this' 'throw' 'true' 'try'
      'typeof' 'var' 'void' 'while' 'with'"
    inlined := ecmascriptGrammar.inlined ++ ["_declared"]
    ranks := ecmascriptGrammar.ranks ++ [rankList "await_expression primary_expression"] }

end SourceSurvey.Languages
