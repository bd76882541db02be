import SourceSurvey.Grammar.Basic

/-! What the grammars of JavaScript and TypeScript have in common. -/

namespace SourceSurvey.Languages

open Grammar

def ecmascriptGrammar : Grammar where
  rules := Reader.rules r#"
    program = hash_bang_line? statement*;
    hash_bang_line = /#!.*/;
    export_statement =
      'export' ('*' _from_clause | namespace_export _from_clause | export_clause _from_clause
        | export_clause) _semicolon
      | @role(decorator)* 'export' (declaration | 'default' (declaration | expression _semicolon));
    namespace_export = '*' 'as' _module_export_name;
    export_clause = '{' @commas(export_specifier)? ','? '}';
    export_specifier = _module_export_name ('as' _module_export_name)?;
    _module_export_name = identifier | string;
    declaration = function_declaration | generator_function_declaration | class_declaration
      | lexical_declaration | variable_declaration;
    import_statement =
      'import' (import_clause _from_clause | string) import_attribute? _semicolon;
    import_clause = namespace_import | named_imports
      | identifier (',' (namespace_import | named_imports))?;
    _from_clause = 'from' string;
    namespace_import = '*' 'as' identifier;
    named_imports = '{' @commas(import_specifier)? ','? '}';
    import_specifier = identifier | _module_export_name 'as' identifier;
    import_attribute = 'with' object;

    statement = export_statement | import_statement | debugger_statement | expression_statement
      | declaration | statement_block | if_statement | switch_statement | for_statement
      | for_in_statement | while_statement | do_statement | try_statement | with_statement
      | break_statement | continue_statement | return_statement | throw_statement
      | empty_statement | labeled_statement;
    expression_statement = _expressions _semicolon;
    variable_declaration = 'var' @commas(variable_declarator) _semicolon;
    lexical_declaration = ('let' | 'const') @commas(variable_declarator) _semicolon;
    variable_declarator = (identifier | _destructuring_pattern) _initializer?;
    statement_block = @right('{' statement* '}' _automatic_semicolon?);
    else_clause = 'else' statement;
    if_statement = @right('if' parenthesized_expression statement else_clause?);
    switch_statement = 'switch' parenthesized_expression switch_body;
    for_statement = 'for' '('
      (lexical_declaration | variable_declaration | _expressions ';' | empty_statement)
      (_expressions ';' | empty_statement) _expressions? ')' statement;
    for_in_statement = 'for' 'await'? _for_header statement;
    _for_header = '(' (_lhs_expression | parenthesized_expression
        | 'var' (identifier | _destructuring_pattern) _initializer?
        | ('let' | 'const') (identifier | _destructuring_pattern) _automatic_semicolon?)
      ('in' | 'of') _expressions ')';
    while_statement = 'while' parenthesized_expression statement;
    do_statement = @right('do' statement 'while' parenthesized_expression _semicolon?);
    try_statement = 'try' statement_block catch_clause? finally_clause?;
    with_statement = 'with' parenthesized_expression statement;
    break_statement = 'break' @alias(identifier, statement_identifier)? _semicolon;
    continue_statement = 'continue' @alias(identifier, statement_identifier)? _semicolon;
    debugger_statement = 'debugger' _semicolon;
    return_statement = 'return' _expressions? _semicolon;
    throw_statement = 'throw' _expressions _semicolon;
    empty_statement = ';';
    labeled_statement = @weight(-1,
      @alias(identifier | _reserved_identifier, statement_identifier) ':' statement);
    switch_body = '{' (switch_case | switch_default)* '}';
    switch_case = 'case' _expressions ':' statement*;
    switch_default = 'default' ':' statement*;
    catch_clause = 'catch' ('(' (identifier | _destructuring_pattern) ')')? statement_block;
    finally_clause = 'finally' statement_block;
    parenthesized_expression = '(' _expressions ')';

    _expressions = expression | sequence_expression;
    expression = primary_expression | _jsx_element | assignment_expression
      | augmented_assignment_expression | await_expression | unary_expression
      | binary_expression | ternary_expression | update_expression | new_expression
      | yield_expression;
    primary_expression = subscript_expression | member_expression | parenthesized_expression
      | _identifier | @alias(_reserved_identifier, identifier) | this | super | number | string
      | template_string | regex | true | false | null | object | array | function_expression
      | arrow_function | generator_function | class | meta_property | call_expression;
    yield_expression = @right('yield' ('*' expression | expression?));
    object = @prec(object, '{' @commas((pair | spread_element | method_definition
      | @alias(identifier | _reserved_identifier, shorthand_property_identifier))?)? '}');
    object_pattern = @prec(object, '{' @commas((pair_pattern | rest_pattern
      | object_assignment_pattern
      | @alias(identifier | _reserved_identifier, shorthand_property_identifier_pattern))?)? '}');
    assignment_pattern = pattern '=' expression;
    object_assignment_pattern =
      (@alias(_reserved_identifier | identifier, shorthand_property_identifier_pattern)
      | _destructuring_pattern) '=' expression;
    array = '[' @commas((expression | spread_element)?)? ']';
    array_pattern = '[' @commas((pattern | assignment_pattern)?)? ']';

    _jsx_element = jsx_element | jsx_self_closing_element;
    jsx_element = jsx_opening_element _jsx_child* jsx_closing_element;
    html_character_reference = /&(#([xX][0-9a-fA-F]{1,6}|[0-9]{1,5})|[A-Za-z]{1,30});/;
    jsx_expression = '{' (expression | sequence_expression | spread_element)? '}';
    _jsx_child = jsx_text | html_character_reference | _jsx_element | jsx_expression;
    jsx_opening_element = @weight(-1, '<' (_jsx_element_name @role(_jsx_attribute)*)? '>');
    jsx_identifier = /[a-zA-Z_$][a-zA-Z\d_$]*-[a-zA-Z\d_$\-]*/;
    _jsx_identifier = @alias(jsx_identifier, identifier) | identifier;
    nested_identifier = @prec(member,
      (identifier | @alias(nested_identifier, member_expression)) '.'
      @alias(identifier, property_identifier));
    jsx_namespace_name = _jsx_identifier ':' _jsx_identifier;
    _jsx_element_name =
      _jsx_identifier | @alias(nested_identifier, member_expression) | jsx_namespace_name;
    jsx_closing_element = '</' _jsx_element_name? '>';
    jsx_self_closing_element = '<' _jsx_element_name @role(_jsx_attribute)* '/>';
    _jsx_attribute = jsx_attribute | jsx_expression;
    _jsx_attribute_name = @alias(_jsx_identifier, property_identifier) | jsx_namespace_name;
    jsx_attribute = _jsx_attribute_name ('=' _jsx_attribute_value)?;
    _jsx_string =
      '"' (@alias(unescaped_double_jsx_string_fragment, string_fragment)
        | html_character_reference)* '"'
      | '\'' (@alias(unescaped_single_jsx_string_fragment, string_fragment)
        | html_character_reference)* '\'';
    unescaped_double_jsx_string_fragment = @immediate(@prec(1, /([^"&]|&[^#A-Za-z])+/));
    unescaped_single_jsx_string_fragment = @immediate(@prec(1, /([^'&]|&[^#A-Za-z])+/));
    _jsx_attribute_value = @alias(_jsx_string, string) | jsx_expression | _jsx_element;

    class = @prec(literal, @role(decorator)* 'class' identifier? class_heritage? class_body);
    class_declaration = @prec(declare,
      @role(decorator)* 'class' identifier class_heritage? class_body _automatic_semicolon?);
    class_heritage = 'extends' expression;
    function_expression =
      @prec(literal, 'async'? 'function' identifier? _call_signature statement_block);
    function_declaration = @right(declare,
      'async'? 'function' identifier _call_signature statement_block _automatic_semicolon?);
    generator_function =
      @prec(literal, 'async'? 'function' '*' identifier? _call_signature statement_block);
    generator_function_declaration = @right(declare,
      'async'? 'function' '*' identifier _call_signature statement_block _automatic_semicolon?);
    arrow_function = 'async'?
      (@alias(_reserved_identifier, identifier) | identifier | _call_signature) '=>'
      (expression | statement_block);
    _call_signature = formal_parameters;
    _formal_parameter = pattern | assignment_pattern;
    optional_chain = '?.';
    call_expression = @prec(call, (expression | import) arguments)
      | @prec(template_call, (primary_expression | new_expression) template_string)
      | @prec(member, primary_expression optional_chain arguments);
    new_expression = @right(new, 'new' (primary_expression | new_expression)
      @weight(1, arguments)?);
    await_expression = @prec(unary_void, 'await' expression);
    member_expression = @prec(member,
      (expression | primary_expression | import) ('.' | optional_chain)
      (private_property_identifier | @alias(identifier, property_identifier)));
    subscript_expression = @right(member,
      (expression | primary_expression) optional_chain? '[' _expressions ']');
    _lhs_expression = member_expression | subscript_expression | _identifier
      | @alias(_reserved_identifier, identifier) | _destructuring_pattern;
    assignment_expression =
      @right(assign, (parenthesized_expression | _lhs_expression) '=' expression);
    _augmented_assignment_lhs = member_expression | subscript_expression
      | @alias(_reserved_identifier, identifier) | identifier | parenthesized_expression;
    augmented_assignment_expression = @right(assign, _augmented_assignment_lhs
      ('+=' | '-=' | '*=' | '/=' | '%=' | '^=' | '&=' | '|=' | '>>=' | '>>>=' | '<<=' | '**='
      | '&&=' | '||=' | '??=') expression);
    _initializer = '=' expression;
    _destructuring_pattern = object_pattern | array_pattern;
    spread_element = '...' expression;
    ternary_expression =
      @right(ternary, expression @alias(_ternary_qmark, '?') expression ':' expression);
    binary_expression = @left(logical_and, expression '&&' expression)
      | @left(logical_or, expression '||' expression)
      | @left(binary_shift, expression '>>' expression)
      | @left(binary_shift, expression '>>>' expression)
      | @left(binary_shift, expression '<<' expression)
      | @left(bitwise_and, expression '&' expression)
      | @left(bitwise_xor, expression '^' expression)
      | @left(bitwise_or, expression '|' expression)
      | @left(binary_plus, expression '+' expression)
      | @left(binary_plus, expression '-' expression)
      | @left(binary_times, expression '*' expression)
      | @left(binary_times, expression '/' expression)
      | @left(binary_times, expression '%' expression)
      | @right(binary_exp, expression '**' expression)
      | @left(binary_relation, expression '<' expression)
      | @left(binary_relation, expression '<=' expression)
      | @left(binary_equality, expression '==' expression)
      | @left(binary_equality, expression '===' expression)
      | @left(binary_equality, expression '!=' expression)
      | @left(binary_equality, expression '!==' expression)
      | @left(binary_relation, expression '>=' expression)
      | @left(binary_relation, expression '>' expression)
      | @left(ternary, expression '??' expression)
      | @left(binary_relation, expression 'instanceof' expression)
      | @left(binary_relation, (expression | private_property_identifier) 'in' expression);
    unary_expression =
      @left(unary_void, ('!' | '~' | '-' | '+' | 'typeof' | 'void' | 'delete') expression);
    update_expression = @left(expression ('++' | '--') | ('++' | '--') expression);
    sequence_expression = @right(@commas(expression));

    string =
      '"' (@alias(unescaped_double_string_fragment, string_fragment) | escape_sequence)* '"'
      | '\'' (@alias(unescaped_single_string_fragment, string_fragment) | escape_sequence)* '\'';
    unescaped_double_string_fragment = @immediate(@prec(1, /[^"\\\r\n]+/));
    unescaped_single_string_fragment = @immediate(@prec(1, /[^'\\\r\n]+/));
    escape_sequence = @immediate('\\' (/[^xu0-7]/ | /[0-7]{1,3}/ | /x[0-9a-fA-F]{2}/
      | /u[0-9a-fA-F]{4}/ | /u\{[0-9a-fA-F]+\}/ | /[\r?][\n\u2028\u2029]/));
    comment = @token('//' /[^\r\n\u2028\u2029]*/ | '/*' /[^*]*\*+([^\/*][^*]*\*+)*/ '/');
    template_string = '`'
      (@alias(_template_chars, string_fragment) | escape_sequence | template_substitution)* '`';
    template_substitution = '${' _expressions '}';
    regex = '/' regex_pattern @immediate(@prec(1, '/')) regex_flags?;
    regex_pattern = @immediate(@prec(-1,
      ('[' ('\\' /./ | /[^\]\n\\]/)* ']' | '\\' /./ | /[^\/\\\[\n]/)+));
    regex_flags = @immediate(/[a-z]+/);
    number = @token(
      ('0x' | '0X') /[\da-fA-F](_?[\da-fA-F])*/
      | ('0' | '0'? /[1-9]/ ('_'? /\d(_?\d)*/)?) '.' /\d(_?\d)*/?
        (('e' | 'E') ('-' | '+')? /\d(_?\d)*/)?
      | '.' /\d(_?\d)*/ (('e' | 'E') ('-' | '+')? /\d(_?\d)*/)?
      | ('0' | '0'? /[1-9]/ ('_'? /\d(_?\d)*/)?) ('e' | 'E') ('-' | '+')? /\d(_?\d)*/
      | /\d(_?\d)*/
      | ('0b' | '0B') /[0-1](_?[0-1])*/
      | ('0o' | '0O') /[0-7](_?[0-7])*/
      | (('0x' | '0X') /[\da-fA-F](_?[\da-fA-F])*/ | ('0b' | '0B') /[0-1](_?[0-1])*/
        | ('0o' | '0O') /[0-7](_?[0-7])*/ | /\d(_?\d)*/) 'n');
    _identifier = undefined | identifier;
    identifier = @token(
      /[^\x00-\x1F\s\p{Zs}0-9:;`"'@#.,|^&<=>+\-*\/\\%?!~()\[\]{}\uFEFF\u2060\u200B\u2028\u2029]|\\u[0-9a-fA-F]{4}|\\u\{[0-9a-fA-F]+\}/
      /[^\x00-\x1F\s\p{Zs}:;`"'@#.,|^&<=>+\-*\/\\%?!~()\[\]{}\uFEFF\u2060\u200B\u2028\u2029]|\\u[0-9a-fA-F]{4}|\\u\{[0-9a-fA-F]+\}/*);
    private_property_identifier = @token('#'
      /[^\x00-\x1F\s\p{Zs}0-9:;`"'@#.,|^&<=>+\-*\/\\%?!~()\[\]{}\uFEFF\u2060\u200B\u2028\u2029]|\\u[0-9a-fA-F]{4}|\\u\{[0-9a-fA-F]+\}/
      /[^\x00-\x1F\s\p{Zs}:;`"'@#.,|^&<=>+\-*\/\\%?!~()\[\]{}\uFEFF\u2060\u200B\u2028\u2029]|\\u[0-9a-fA-F]{4}|\\u\{[0-9a-fA-F]+\}/*);
    meta_property = 'new' '.' 'target' | 'import' '.' 'meta';
    this = 'this'; import = @token('import');
    super = 'super';
    true = 'true';
    false = 'false';
    null = 'null';
    undefined = 'undefined';

    arguments = '(' @commas((expression | spread_element)?)? ')';
    decorator = '@' (identifier | @alias(decorator_member_expression, member_expression)
      | @alias(decorator_call_expression, call_expression));
    decorator_member_expression = @prec(member,
      (identifier | @alias(decorator_member_expression, member_expression)) '.'
      @alias(identifier, property_identifier));
    decorator_call_expression = @prec(call,
      (identifier | @alias(decorator_member_expression, member_expression)) arguments);
    class_body = '{' (@role(method_definition) ';'? | @role(field_definition) _semicolon
      | @role(class_static_block) | ';')* '}';
    field_definition = @role(decorator)* 'static'? _property_name _initializer?;
    formal_parameters = '(' (@commas(_formal_parameter) ','?)? ')';
    class_static_block = 'static' _automatic_semicolon? statement_block;
    pattern = @weight(-1, _lhs_expression | rest_pattern);
    rest_pattern = @right('...' _lhs_expression);
    method_definition = @role(decorator)*
      ('static' | @alias(@token('static' /\s+/ 'get' /\s*\n/), 'static get'))?
      'async'? ('get' | 'set' | '*')? _property_name formal_parameters statement_block;
    pair = _property_name ':' expression;
    pair_pattern = _property_name ':' (pattern | assignment_pattern);
    _property_name = @alias(identifier | _reserved_identifier, property_identifier)
      | private_property_identifier | string | number | computed_property_name;
    computed_property_name = '[' expression ']';
    _reserved_identifier = 'get' | 'set' | 'async' | 'static' | 'export' | 'let';
    _semicolon = _automatic_semicolon | ';';
  "#
  extras := ruleList
    "comment html_comment /[\\s\\p\x7bZs\x7d\\uFEFF\\u2028\\u2029\\u2060\\u200B]/"
  externals := ruleList "_automatic_semicolon _template_chars _ternary_qmark html_comment '||'
    escape_sequence regex_pattern jsx_text"
  inlined := nameList "_call_signature _formal_parameter _expressions _semicolon _identifier
    _reserved_identifier _jsx_attribute _jsx_element_name _jsx_child _jsx_element
    _jsx_attribute_name _jsx_attribute_value _jsx_identifier _lhs_expression"
  supertypes := nameList "statement declaration expression primary_expression pattern"
  word := some "identifier"
  ranks := [
    rankList "'member' 'template_call' 'call' update_expression 'unary_void' 'binary_exp'
      'binary_times' 'binary_plus' 'binary_shift' 'binary_compare' 'binary_relation'
      'binary_equality' 'bitwise_and' 'bitwise_xor' 'bitwise_or' 'logical_and' 'logical_or'
      'ternary' sequence_expression arrow_function",
    rankList "'assign' primary_expression",
    rankList "'member' 'template_call' 'new' 'call' expression",
    rankList "'declare' 'literal'",
    rankList "primary_expression statement_block 'object'",
    rankList "meta_property import",
    rankList "import_statement import",
    rankList "export_statement primary_expression",
    rankList "lexical_declaration primary_expression"]
  reserved := []

end SourceSurvey.Languages
