import SourceSurvey.Grammar.Basic

/-! The grammar of Go. Statements may stand at the top, so that fragments can be read. -/

namespace SourceSurvey.Languages

open Grammar

def goGrammar : Grammar where
  rules := Reader.rules r#"
    source_file =
      (_statement (/\n/ | ';' | '\0') | _top_level_declaration (/\n/ | ';' | '\0'))*
      _top_level_declaration?;
    _top_level_declaration =
      package_clause | function_declaration | method_declaration | import_declaration;
    package_clause = 'package' _package_identifier;
    import_declaration = 'import' (import_spec | import_spec_list);
    import_spec = (dot | blank_identifier | _package_identifier)? _string_literal;
    dot = '.';
    blank_identifier = '_';
    import_spec_list =
      '(' (import_spec ((/\n/ | ';' | '\0') import_spec)* (/\n/ | ';' | '\0')?)? ')';
    _declaration = const_declaration | type_declaration | var_declaration;
    const_declaration =
      'const' (const_spec | '(' (const_spec (/\n/ | ';' | '\0'))* ')');
    const_spec = @left(@commas(identifier) (_type? '=' expression_list)?);
    var_declaration = 'var' (var_spec | var_spec_list);
    var_spec = @commas(identifier) (_type ('=' expression_list)? | '=' expression_list);
    var_spec_list = '(' (var_spec (/\n/ | ';' | '\0'))* ')';
    function_declaration = @right(1, 'func' identifier type_parameter_list? parameter_list
      (parameter_list | _simple_type)? block?);
    method_declaration = @right(1, 'func' parameter_list _field_identifier parameter_list
      (parameter_list | _simple_type)? block?);
    type_parameter_list = '[' @commas(type_parameter_declaration) ','? ']';
    type_parameter_declaration = @commas(identifier) @alias(type_elem, type_constraint);
    parameter_list =
      '(' (@commas(parameter_declaration | variadic_parameter_declaration)? ','?)? ')';
    parameter_declaration = @commas(identifier)? _type;
    variadic_parameter_declaration = identifier? '...' _type;
    type_alias = _type_identifier type_parameter_list? '=' _type;
    type_declaration =
      'type' (type_spec | type_alias | '(' ((type_spec | type_alias) ((/\n/ | ';' | '\0') (type_spec | type_alias))*
        (/\n/ | ';' | '\0')?)? ')');
    type_spec = _type_identifier type_parameter_list? _type;
    field_name_list = @commas(_field_identifier);
    expression_list = @commas(_expression);
    _type = _simple_type | parenthesized_type;
    parenthesized_type = '(' _type ')';
    _simple_type = @weight(-1, _type_identifier) | generic_type | qualified_type | pointer_type
      | struct_type | interface_type | array_type | slice_type | map_type | channel_type
      | function_type | negated_type;
    generic_type =
      @weight(1, (_type_identifier | qualified_type | negated_type) type_arguments);
    type_arguments = @weight(2, '[' @commas(type_elem) ','? ']');
    pointer_type = @prec(6, '*' _type);
    array_type = @right('[' _expression ']' _type);
    implicit_length_array_type = '[' '...' ']' _type;
    slice_type = @right('[' ']' _type);
    struct_type = 'struct' field_declaration_list;
    negated_type = @left('~' _type);
    field_declaration_list = '{'
      (field_declaration ((/\n/ | ';' | '\0') field_declaration)* (/\n/ | ';' | '\0')?)? '}';
    field_declaration = (@commas(_field_identifier) _type
      | '*'? (_type_identifier | qualified_type | generic_type)) _string_literal?;
    interface_type = 'interface' '{'
      (_interface_elem ((/\n/ | ';' | '\0') _interface_elem)* (/\n/ | ';' | '\0')?)? '}';
    _interface_elem = method_elem | type_elem;
    method_elem = _field_identifier parameter_list (parameter_list | _simple_type)?;
    type_elem = _type ('|' _type)*;
    map_type = @right('map' '[' _type ']' _type);
    channel_type = @left('chan' _type | 'chan' '<-' _type | @prec(6, '<-' 'chan' _type));
    function_type = @right('func' parameter_list (parameter_list | _simple_type)?);
    block = '{' statement_list? '}';
    statement_list =
      _statement ((/\n/ | ';' | '\0') _statement)*
        ((/\n/ | ';' | '\0') @alias(empty_labeled_statement, labeled_statement)?)?
      | @alias(empty_labeled_statement, labeled_statement);
    _statement = _declaration | _simple_statement | return_statement | go_statement
      | defer_statement | if_statement | for_statement | expression_switch_statement
      | type_switch_statement | select_statement | labeled_statement | fallthrough_statement
      | break_statement | continue_statement | goto_statement | block | empty_statement;
    empty_statement = ';';
    _simple_statement = expression_statement | send_statement | inc_statement | dec_statement
      | assignment_statement | short_var_declaration;
    expression_statement = _expression;
    send_statement = _expression '<-' _expression;
    receive_statement = (expression_list ('=' | ':='))? _expression;
    inc_statement = _expression '++';
    dec_statement = _expression '--';
    assignment_statement = expression_list
      ('*=' | '/=' | '%=' | '<<=' | '>>=' | '&=' | '&^=' | '+=' | '-=' | '|=' | '^=' | '=')
      expression_list;
    short_var_declaration = expression_list ':=' expression_list;
    labeled_statement = @alias(identifier, label_name) ':' _statement;
    empty_labeled_statement = @alias(identifier, label_name) ':';
    fallthrough_statement = @left('fallthrough');
    break_statement = 'break' @alias(identifier, label_name)?;
    continue_statement = 'continue' @alias(identifier, label_name)?;
    goto_statement = 'goto' @alias(identifier, label_name);
    return_statement = 'return' expression_list?;
    go_statement = 'go' _expression;
    defer_statement = 'defer' _expression;
    if_statement =
      'if' (_simple_statement ';')? _expression block ('else' (block | if_statement))?;
    for_statement = 'for' (_expression | for_clause | range_clause)? block;
    for_clause = _simple_statement? ';' _expression? ';' _simple_statement?;
    range_clause = (expression_list ('=' | ':='))? 'range' _expression;
    expression_switch_statement =
      'switch' (_simple_statement ';')? _expression? '{' (expression_case | default_case)* '}';
    expression_case = 'case' expression_list ':' statement_list?;
    default_case = 'default' ':' statement_list?;
    type_switch_statement =
      'switch' _type_switch_header '{' (type_case | default_case)* '}';
    _type_switch_header =
      (_simple_statement ';')? (expression_list ':=')? _expression '.' '(' 'type' ')';
    type_case = 'case' @commas(_type) ':' statement_list?;
    select_statement = 'select' '{' (communication_case | default_case)* '}';
    communication_case = 'case' (send_statement | receive_statement) ':' statement_list?;
    _expression = unary_expression | binary_expression | selector_expression | index_expression
      | slice_expression | call_expression | type_assertion_expression
      | type_conversion_expression | type_instantiation_expression | identifier
      | @alias('new' | 'make', identifier) | composite_literal | func_literal | _string_literal
      | int_literal | float_literal | imaginary_literal | rune_literal | nil | true | false | iota
      | parenthesized_expression;
    parenthesized_expression = '(' _expression ')';
    call_expression = @prec(7,
      @alias('new' | 'make', identifier) @alias(special_argument_list, argument_list)
      | _expression type_arguments? argument_list);
    variadic_argument = @right(_expression '...');
    special_argument_list = '(' (_type (',' _expression)* ','?)? ')';
    argument_list = '(' ((_expression | variadic_argument) (',' (_expression | variadic_argument))*
      ','?)? ')';
    selector_expression = @prec(7, _expression '.' _field_identifier);
    index_expression = @prec(7, _expression '[' _expression ']');
    slice_expression = @prec(7, _expression '[' (_expression? ':' _expression?
      | _expression? ':' _expression ':' _expression) ']');
    type_assertion_expression = @prec(7, _expression '.' '(' _type ')');
    type_conversion_expression = @weight(-1, _type '(' _expression ','? ')');
    type_instantiation_expression = @weight(-1, _type '[' @commas(_type) ','? ']');
    composite_literal = @prec(-1, (map_type | slice_type | array_type | implicit_length_array_type
      | struct_type | _type_identifier | generic_type | qualified_type) literal_value);
    literal_value = '{' (@commas(literal_element | keyed_element)? ','?)? '}';
    literal_element = _expression | literal_value;
    keyed_element = literal_element ':' literal_element;
    func_literal = 'func' parameter_list (parameter_list | _simple_type)? block;
    unary_expression = @prec(6, ('+' | '-' | '!' | '^' | '*' | '&' | '<-') _expression);
    binary_expression =
      @left(5, _expression ('*' | '/' | '%' | '<<' | '>>' | '&' | '&^') _expression)
      | @left(4, _expression ('+' | '-' | '|' | '^') _expression)
      | @left(3, _expression ('==' | '!=' | '<' | '<=' | '>' | '>=') _expression)
      | @left(2, _expression '&&' _expression)
      | @left(1, _expression '||' _expression);
    qualified_type = _package_identifier '.' _type_identifier;
    identifier = /[_\p{XID_Start}][_\p{XID_Continue}]*/;
    _type_identifier = @alias(identifier, type_identifier);
    _field_identifier = @alias(identifier, field_identifier);
    _package_identifier = @alias(identifier, package_identifier);
    _string_literal = raw_string_literal | interpreted_string_literal;
    raw_string_literal =
      '`' @alias(@token(@prec(1, /[^`]*/)), raw_string_literal_content) '`';
    interpreted_string_literal = '"'
      (@alias(@immediate(@prec(1, /[^"\n\\]+/)), interpreted_string_literal_content)
        | escape_sequence)* @immediate('"');
    escape_sequence = @immediate('\\'
      (/[^xuU]/ | /\d{2,3}/ | /x[0-9a-fA-F]{2,}/ | /u[0-9a-fA-F]{4}/ | /U[0-9a-fA-F]{8}/));
    int_literal = @token(/0[bB]_?[01](_?[01])*/ | '0' | /[1-9](_?[0-9](_?[0-9])*)?/
      | /0[oO]?_?[0-7](_?[0-7])*/ | /0[xX]_?[0-9a-fA-F](_?[0-9a-fA-F])*/);
    float_literal = @token(/[0-9](_?[0-9])*\.([0-9](_?[0-9])*)?([eE][+\-]?[0-9](_?[0-9])*)?/
      | /[0-9](_?[0-9])*[eE][+\-]?[0-9](_?[0-9])*/
      | /\.[0-9](_?[0-9])*([eE][+\-]?[0-9](_?[0-9])*)?/
      | /0[xX](_?[0-9a-fA-F](_?[0-9a-fA-F])*\.([0-9a-fA-F](_?[0-9a-fA-F])*)?|_?[0-9a-fA-F](_?[0-9a-fA-F])*|\.[0-9a-fA-F](_?[0-9a-fA-F])*)[pP][+\-]?[0-9](_?[0-9])*/);
    imaginary_literal = @token((/[0-9](_?[0-9])*/
      | /0[bB]_?[01](_?[01])*/ | /0[oO]?_?[0-7](_?[0-7])*/ | /0[xX]_?[0-9a-fA-F](_?[0-9a-fA-F])*/
      | /[0-9](_?[0-9])*\.([0-9](_?[0-9])*)?([eE][+\-]?[0-9](_?[0-9])*)?/
      | /[0-9](_?[0-9])*[eE][+\-]?[0-9](_?[0-9])*/
      | /\.[0-9](_?[0-9])*([eE][+\-]?[0-9](_?[0-9])*)?/
      | /0[xX](_?[0-9a-fA-F](_?[0-9a-fA-F])*\.([0-9a-fA-F](_?[0-9a-fA-F])*)?|_?[0-9a-fA-F](_?[0-9a-fA-F])*|\.[0-9a-fA-F](_?[0-9a-fA-F])*)[pP][+\-]?[0-9](_?[0-9])*/) 'i');
    rune_literal = @token('\'' (/[^'\\]/
      | '\\' (/x[0-9a-fA-F]{2}/ | /[0-7]{3}/ | /u[0-9a-fA-F]{4}/ | /U[0-9a-fA-F]{8}/
        | /[abfnrtv\\'"]/)) '\'');
    nil = 'nil';
    true = 'true';
    false = 'false';
    iota = 'iota';
    comment = @token('//' /.*/ | '/*' /[^*]*\*+([^\/*][^*]*\*+)*/ '/');
  "#
  extras := ruleList "comment /\\s/"
  externals := []
  inlined := nameList "_type _type_identifier _field_identifier _package_identifier
    _top_level_declaration _string_literal _interface_elem"
  supertypes := nameList "_expression _type _simple_type _statement _simple_statement"
  word := some "identifier"
  ranks := []
  reserved := nameList "'break' 'case' 'chan' 'const' 'continue' 'default' 'defer' 'else'
    'fallthrough' 'for' 'func' 'go' 'goto' 'if' 'import' 'interface' 'map' 'package' 'range'
    'return' 'select' 'struct' 'switch' 'type' 'var'"

end SourceSurvey.Languages
