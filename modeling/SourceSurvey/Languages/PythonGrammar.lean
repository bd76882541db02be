import SourceSurvey.Grammar.Basic

/-! The grammar of Python, with the statements of its older editions. -/

namespace SourceSurvey.Languages

open Grammar

def pythonGrammar : Grammar where
  rules := Reader.rules r#"
    module = _statement*;
    _statement = _simple_statements | _compound_statement;
    _simple_statements = _simple_statement (';' _simple_statement)* ';'? _newline;
    _simple_statement = future_import_statement | import_statement | import_from_statement
      | print_statement | assert_statement | expression_statement | return_statement
      | delete_statement | raise_statement | pass_statement | break_statement
      | continue_statement | global_statement | nonlocal_statement | exec_statement
      | type_alias_statement;
    import_statement = 'import' _import_list;
    import_prefix = '.'+;
    relative_import = import_prefix dotted_name?;
    future_import_statement =
      'from' '__future__' 'import' (_import_list | '(' _import_list ')');
    import_from_statement = 'from' (relative_import | dotted_name) 'import'
      (wildcard_import | _import_list | '(' _import_list ')');
    _import_list = @commas(dotted_name | aliased_import) ','?;
    aliased_import = dotted_name 'as' identifier;
    wildcard_import = '*';
    print_statement = @prec(1, 'print' chevron (',' expression)* ','?)
      | @prec(-3, @weight(-1, 'print' @commas(expression) ','?));
    chevron = '>>' expression;
    assert_statement = 'assert' @commas(expression);
    expression_statement = expression | @commas(expression | list_splat) ','? | assignment
      | augmented_assignment | yield;
    named_expression = _named_expression_lhs ':=' expression;
    _named_expression_lhs = identifier | keyword_identifier;
    return_statement = 'return' _expressions?;
    delete_statement = 'del' _expressions;
    _expressions = expression | expression_list;
    raise_statement = 'raise' _expressions? ('from' expression)?;
    pass_statement = @left('pass');
    break_statement = @left('break');
    continue_statement = @left('continue');
    _compound_statement = if_statement | for_statement | while_statement | try_statement
      | with_statement | function_definition | class_definition | decorated_definition
      | match_statement;
    if_statement = 'if' expression ':' _suite @role(elif_clause)* else_clause?;
    elif_clause = 'elif' expression ':' _suite;
    else_clause = 'else' ':' _suite;
    match_statement = 'match' @commas(expression) ','? ':' @alias(_match_block, block);
    _match_block = _indent @role(case_clause)* _dedent | _newline;
    case_clause = 'case' @commas(case_pattern) ','? if_clause? ':' _suite;
    for_statement =
      'async'? 'for' _left_hand_side 'in' _expressions ':' _suite else_clause?;
    while_statement = 'while' expression ':' _suite else_clause?;
    try_statement =
      'try' ':' _suite except_clause* else_clause? finally_clause?;
    except_clause = 'except' '*'?
      (expression ('as' expression)? | expression (',' expression)+)? ':' _suite;
    finally_clause = 'finally' ':' _suite;
    with_statement = 'async'? 'with' with_clause ':' _suite;
    with_clause = @commas(with_item) ','? | '(' @commas(with_item) ','? ')';
    with_item = @weight(1, expression);
    function_definition =
      'async'? 'def' identifier type_parameter? parameters ('->' type)? ':' _suite;
    parameters = '(' _parameters? ')';
    lambda_parameters = _parameters;
    list_splat = '*' expression;
    dictionary_splat = '**' expression;
    global_statement = 'global' @commas(identifier);
    nonlocal_statement = 'nonlocal' @commas(identifier);
    exec_statement = 'exec' (string | identifier) ('in' @commas(expression))?;
    type_alias_statement = @weight(1, 'type' type '=' type);
    class_definition = 'class' identifier type_parameter? argument_list? ':' _suite;
    type_parameter = '[' @commas(type) ','? ']';
    parenthesized_list_splat = @prec(1, '('
      (@alias(parenthesized_list_splat, parenthesized_expression) | list_splat) ')');
    argument_list = '(' @commas(expression | list_splat | dictionary_splat
      | @alias(parenthesized_list_splat, parenthesized_expression) | keyword_argument)? ','? ')';
    decorated_definition = decorator+ (class_definition | function_definition);
    decorator = '@' expression _newline;
    _suite = @alias(_simple_statements, block) | _indent block | @alias(_newline, block);
    block = _statement* _dedent;
    expression_list =
      @right((expression | list_splat) (',' | (',' (expression | list_splat))+ ','?));
    dotted_name = @prec(1, identifier ('.' identifier)*);

    case_pattern = @prec(1, @alias(_as_pattern, as_pattern) | keyword_pattern | _simple_pattern);
    _simple_pattern = @prec(1, class_pattern | splat_pattern | union_pattern
      | @alias(_list_pattern, list_pattern) | @alias(_tuple_pattern, tuple_pattern)
      | dict_pattern | string | concatenated_string | true | false | none
      | '-'? (integer | float) | complex_pattern | dotted_name | '_');
    _as_pattern = case_pattern 'as' identifier;
    union_pattern = @right(_simple_pattern (@left('|' _simple_pattern))+);
    _list_pattern = '[' (@commas(case_pattern) ','?)? ']';
    _tuple_pattern = '(' (@commas(case_pattern) ','?)? ')';
    dict_pattern = '{' (@commas(_key_value_pattern | splat_pattern) ','?)? '}';
    _key_value_pattern = _simple_pattern ':' case_pattern;
    keyword_pattern = identifier '=' _simple_pattern;
    splat_pattern = @prec(1, ('*' | '**') (identifier | '_'));
    class_pattern = dotted_name '(' (@commas(case_pattern) ','?)? ')';
    complex_pattern = @prec(1, '-'? (integer | float) ('+' | '-') (integer | float));

    _parameters = @commas(parameter) ','?;
    _patterns = @commas(pattern) ','?;
    parameter = identifier | typed_parameter | default_parameter | typed_default_parameter
      | list_splat_pattern | tuple_pattern | keyword_separator | positional_separator
      | dictionary_splat_pattern;
    pattern = identifier | keyword_identifier | subscript | attribute | list_splat_pattern
      | tuple_pattern | list_pattern;
    tuple_pattern = '(' _patterns? ')';
    list_pattern = '[' _patterns? ']';
    default_parameter = (identifier | tuple_pattern) '=' expression;
    typed_default_parameter = @prec(-1, identifier ':' type '=' expression);
    list_splat_pattern = '*' (identifier | keyword_identifier | subscript | attribute);
    dictionary_splat_pattern = '**' (identifier | keyword_identifier | subscript | attribute);
    as_pattern = @left(expression 'as' @alias(expression, as_pattern_target));

    _expression_within_for_in_clause =
      expression | @alias(lambda_within_for_in_clause, lambda);
    expression = comparison_operator | not_operator | boolean_operator | lambda
      | primary_expression | conditional_expression | named_expression | as_pattern;
    primary_expression = await | binary_operator | identifier | keyword_identifier | string
      | concatenated_string | integer | float | true | false | none | unary_operator | attribute
      | subscript | call | list | list_comprehension | dictionary | dictionary_comprehension | set
      | set_comprehension | tuple | parenthesized_expression | generator_expression | ellipsis;
    not_operator = @prec(12, 'not' expression);
    boolean_operator = @left(11, expression 'and' expression)
      | @left(10, expression 'or' expression);
    binary_operator = @left(18, primary_expression '+' primary_expression)
      | @left(18, primary_expression '-' primary_expression)
      | @left(19, primary_expression '*' primary_expression)
      | @left(19, primary_expression '@' primary_expression)
      | @left(19, primary_expression '/' primary_expression)
      | @left(19, primary_expression '%' primary_expression)
      | @left(19, primary_expression '//' primary_expression)
      | @right(21, primary_expression '**' primary_expression)
      | @left(14, primary_expression '|' primary_expression)
      | @left(15, primary_expression '&' primary_expression)
      | @left(16, primary_expression '^' primary_expression)
      | @left(17, primary_expression '<<' primary_expression)
      | @left(17, primary_expression '>>' primary_expression);
    unary_operator = @prec(20, ('+' | '-' | '~') primary_expression);
    _not_in = 'not' 'in';
    _is_not = 'is' 'not';
    comparison_operator = @left(13, primary_expression (('<' | '<=' | '==' | '!=' | '>=' | '>'
      | '<>' | 'in' | @alias(_not_in, 'not in') | 'is' | @alias(_is_not, 'is not'))
      primary_expression)+);
    lambda = @prec(-2, 'lambda' lambda_parameters? ':' expression);
    lambda_within_for_in_clause =
      'lambda' lambda_parameters? ':' _expression_within_for_in_clause;
    assignment = _left_hand_side
      ('=' _right_hand_side | ':' type | ':' type '=' _right_hand_side);
    augmented_assignment = _left_hand_side ('+=' | '-=' | '*=' | '/=' | '@=' | '//=' | '%='
      | '**=' | '>>=' | '<<=' | '&=' | '^=' | '|=') _right_hand_side;
    _left_hand_side = pattern | pattern_list;
    pattern_list = pattern (',' | (',' pattern)+ ','?);
    _right_hand_side = expression | expression_list | assignment | augmented_assignment
      | pattern_list | yield;
    yield = @right('yield' ('from' expression | _expressions?));
    attribute = @prec(22, primary_expression '.' identifier);
    subscript = @prec(22, primary_expression '[' @commas(expression | list_splat | slice) ','? ']');
    slice = expression? ':' expression? (':' expression?)?;
    ellipsis = '...';
    call = @prec(22, primary_expression (generator_expression | argument_list));
    typed_parameter =
      @prec(-1, (identifier | list_splat_pattern | dictionary_splat_pattern) ':' type);
    type = @prec(1, expression) | splat_type | generic_type | union_type | constrained_type
      | member_type;
    splat_type = @prec(1, ('*' | '**') identifier);
    generic_type = @prec(1, (identifier | @alias('type', identifier)) type_parameter);
    union_type = @left(type '|' type);
    constrained_type = @right(type ':' type);
    member_type = type '.' identifier;
    keyword_argument = (identifier | keyword_identifier) '=' expression;

    list = '[' _collection_elements? ']';
    set = '{' _collection_elements '}';
    tuple = '(' _collection_elements? ')';
    dictionary = '{' @commas(pair | dictionary_splat)? ','? '}';
    pair = expression ':' expression;
    list_comprehension = '[' expression _comprehension_clauses ']';
    dictionary_comprehension = '{' pair _comprehension_clauses '}';
    set_comprehension = '{' expression _comprehension_clauses '}';
    generator_expression = '(' expression _comprehension_clauses ')';
    _comprehension_clauses = for_in_clause (for_in_clause | if_clause)*;
    parenthesized_expression = @prec(1, '(' (expression | yield) ')');
    _collection_elements =
      @commas(expression | yield | list_splat | parenthesized_list_splat) ','?;
    for_in_clause = @left('async'? 'for' _left_hand_side 'in'
      @commas(_expression_within_for_in_clause) ','?);
    if_clause = 'if' expression;
    conditional_expression = @right(-1, expression 'if' expression 'else' expression);
    concatenated_string = string string+;
    string = string_start (interpolation | string_content)* string_end;
    string_content = @right(
      (escape_interpolation | escape_sequence | _not_escape_sequence | _string_content)+);
    interpolation = '{' _f_expression '='? type_conversion? format_specifier? '}';
    _f_expression = expression | expression_list | pattern_list | yield;
    escape_sequence = @immediate(@prec(1, '\\' (/u[a-fA-F\d]{4}/ | /U[a-fA-F\d]{8}/
      | /x[a-fA-F\d]{2}/ | /\d{1,3}/ | /\r?\n/ | /['"abfrntv\\]/ | /N\{[^}]+\}/)));
    _not_escape_sequence = @immediate('\\');
    format_specifier =
      ':' (@token(@prec(1, /[^{}\n]+/)) | @alias(interpolation, format_expression))*;
    type_conversion = /![a-z]/;
    integer = @token(('0x' | '0X') /_?[A-Fa-f0-9]+/+ /[Ll]/?
      | ('0o' | '0O') /_?[0-7]+/+ /[Ll]/?
      | ('0b' | '0B') /_?[0-1]+/+ /[Ll]/?
      | /[0-9]+_?/+ (/[Ll]/? | /[jJ]/?));
    float = @token((/[0-9]+_?/+ '.' (/[0-9]+_?/+)? (/[eE][+\-]?/ /[0-9]+_?/+)?
      | (/[0-9]+_?/+)? '.' /[0-9]+_?/+ (/[eE][+\-]?/ /[0-9]+_?/+)?
      | /[0-9]+_?/+ /[eE][+\-]?/ /[0-9]+_?/+) /[jJ]/?);
    identifier = /[_\p{XID_Start}][_\p{XID_Continue}]*/;
    keyword_identifier = @prec(-3, @alias('print' | 'exec' | 'async' | 'await', identifier))
      | @alias('type' | 'match', identifier);
    true = 'True';
    false = 'False';
    none = 'None';
    await = @prec(20, 'await' primary_expression);
    comment = @token('#' /.*/);
    line_continuation = @token('\\' (/\r?\n/ | '\0'));
    positional_separator = '/';
    keyword_separator = '*';
  "#
  extras := ruleList "comment /[\\s\\f\\uFEFF\\u2060\\u200B]|\\r?\\n/ line_continuation"
  externals := ruleList "_newline _indent _dedent string_start _string_content
    escape_interpolation string_end comment ']' ')' '\x7d' 'except'"
  inlined := nameList
    "_simple_statement _compound_statement _suite _expressions _left_hand_side keyword_identifier"
  supertypes := nameList
    "_simple_statement _compound_statement expression primary_expression pattern parameter"
  word := some "identifier"
  ranks := []
  reserved := nameList "true false none 'and' 'as' 'assert' 'break' 'class' 'continue' 'def'
    'del' 'elif' 'else' 'except' 'finally' 'for' 'from' 'global' 'if' 'import' 'in' 'is' 'lambda'
    'nonlocal' 'not' 'or' 'pass' 'raise' 'return' 'try' 'while' 'with' 'yield'"

end SourceSurvey.Languages
